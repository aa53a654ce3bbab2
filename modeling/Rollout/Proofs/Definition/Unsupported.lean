import Rollout.Proofs.Definition.Compilation
import Rollout.Proofs.Evaluation.Calls
import Rollout.Proofs.Evaluation.Decision
import Rollout.Proofs.Json.Field

/-! A matcher that is not supported takes its own flag out of service and nothing else: that flag
answers without asking segments or other flags. -/

namespace Rollout

section Accepted

variable {α : Type} {decode : Json → Option α}

lemma Attempt.isSome_ofJson? (decode : Json → Option α) (json : Json) :
    (ofJson? decode json).isSome = json.isComplete := by
  cases hc : json.isComplete <;> cases hd : decode json <;> simp [ofJson?, hc, hd]

lemma Attempt.eq_some_of_parsed {json : Json} {value : α}
    (h : ofJson? decode json = some (.parsed value)) : decode json = some value := by
  rw [ofJson?] at h
  split at h
  · cases hd : decode json with
    | some decoded => simpa [hd] using h
    | none => simp [hd] at h
  · cases h

lemma Json.isSome_list?_mapItems {g : Nat → Json → Json}
    (hg : ∀ i item, (decode item).isSome → (decode (g i item)).isSome) {json : Json}
    (h : (json.list? decode).isSome) : ((json.mapItems g).list? decode).isSome := by
  cases json with
  | array items =>
    rw [list?, isSome_mapM_iff] at h
    rw [mapItems, list?, isSome_mapM_iff]
    intro item hi
    obtain ⟨i, hlt, rfl⟩ := List.mem_mapIdx.mp hi
    exact hg i _ (h _ (List.getElem_mem hlt))
  | _ => cases h

lemma Json.exists_mem_of_list? {json item : Json} {values : List α}
    (h : json.list? decode = some values) (hi : item ∈ json.items) :
    ∃ value ∈ values, decode item = some value := by
  cases json with
  | array items => exact exists_mem_of_mapM h hi
  | _ => cases h

end Accepted

namespace MatcherGroup

def fieldNames : List String := ["combiner", "matchers"]

lemma ofJson?_eq_some_iff {json : Json} {g : MatcherGroup} :
    ofJson? json = some g ↔ ∃ slot, json.record? fieldNames = some slot ∧
      (slot "combiner").withDefault? .all Combiner.ofJson? = some g.combiner ∧
      (slot "matchers").required? (Json.list? (Attempt.ofJson? MatcherDefinition.ofJson?)) =
        some g.matchers := by
  simp only [ofJson?, fieldNames, Option.bind_eq_bind, Option.bind_eq_some_iff, Option.pure_def,
    Option.some.injEq]
  constructor
  · rintro ⟨slot, hslot, combiner, hcombiner, matchers, hmatchers, rfl⟩
    exact ⟨slot, hslot, hcombiner, hmatchers⟩
  · rintro ⟨slot, hslot, hcombiner, hmatchers⟩
    exact ⟨slot, hslot, _, hcombiner, _, hmatchers, rfl⟩

def matcherItems (json : Json) : List Json :=
  (json.field? fieldNames "matchers").elim [] Json.items

def mapMatchers (g : Nat → Json → Json) (json : Json) : Json :=
  json.mapField fieldNames "matchers" (Json.mapItems g)

lemma isSome_ofJson?_mapMatchers {g : Nat → Json → Json}
    (hg : ∀ j item, item.isComplete = true → (g j item).isComplete = true) {json : Json}
    (h : (ofJson? json).isSome) : (ofJson? (mapMatchers g json)).isSome := by
  obtain ⟨group, hgroup⟩ := Option.isSome_iff_exists.mp h
  obtain ⟨slot, hslot, hcombiner, hmatchers⟩ := ofJson?_eq_some_iff.mp hgroup
  have hitems : ∀ j item, (Attempt.ofJson? MatcherDefinition.ofJson? item).isSome →
      (Attempt.ofJson? MatcherDefinition.ofJson? (g j item)).isSome := by
    simpa only [Attempt.isSome_ofJson?] using hg
  obtain ⟨matchers, hmatchers'⟩ := Json.Slot.exists_required?_map hmatchers fun _ =>
    Json.isSome_list?_mapItems hitems
  refine Option.isSome_iff_exists.mpr ⟨{ group with matchers }, ofJson?_eq_some_iff.mpr ?_⟩
  rw [mapMatchers, Json.record?_mapField (by decide), hslot]
  exact ⟨_, rfl, hcombiner, hmatchers'⟩

lemma exists_mem_of_matcherItems {json item : Json} {group : MatcherGroup}
    (h : ofJson? json = some group) (hi : item ∈ matcherItems json) :
    ∃ attempt ∈ group.matchers,
      Attempt.ofJson? MatcherDefinition.ofJson? item = some attempt := by
  obtain ⟨slot, hslot, -, hmatchers⟩ := ofJson?_eq_some_iff.mp h
  obtain ⟨matchers, hs, hdecode⟩ := Json.Slot.required?_eq_some_iff.mp hmatchers
  rw [matcherItems, Json.field?, hslot, Option.bind_some, hs] at hi
  exact Json.exists_mem_of_list? hdecode hi

end MatcherGroup

namespace ConditionDefinition

def fieldNames : List String := ["conditionType", "label", "matcherGroup", "partitions"]

lemma ofJson?_eq_some_iff {json : Json} {c : ConditionDefinition} :
    ofJson? json = some c ↔ ∃ slot, json.record? fieldNames = some slot ∧
      (slot "conditionType").withDefault? .whitelist ConditionType.ofJson? =
        some c.conditionType ∧
      (slot "label").withDefault? "" Json.string? = some c.label ∧
      (slot "matcherGroup").required? MatcherGroup.ofJson? = some c.matcherGroup ∧
      (slot "partitions").withDefault? [] (Json.list? Partition.ofJson?) = some c.partitions := by
  cases c
  simp [ofJson?, Option.bind_eq_some_iff, fieldNames]

def matcherItems (json : Json) : List Json :=
  (json.field? fieldNames "matcherGroup").elim [] MatcherGroup.matcherItems

def mapMatchers (g : Nat → Json → Json) (json : Json) : Json :=
  json.mapField fieldNames "matcherGroup" (MatcherGroup.mapMatchers g)

lemma isSome_ofJson?_mapMatchers {g : Nat → Json → Json}
    (hg : ∀ j item, item.isComplete = true → (g j item).isComplete = true) {json : Json}
    (h : (ofJson? json).isSome) : (ofJson? (mapMatchers g json)).isSome := by
  obtain ⟨c, hc⟩ := Option.isSome_iff_exists.mp h
  obtain ⟨slot, hslot, htype, hlabel, hgroup, hpartitions⟩ := ofJson?_eq_some_iff.mp hc
  obtain ⟨matcherGroup, hgroup'⟩ := Json.Slot.exists_required?_map hgroup fun _ =>
    MatcherGroup.isSome_ofJson?_mapMatchers hg
  refine Option.isSome_iff_exists.mpr ⟨{ c with matcherGroup }, ofJson?_eq_some_iff.mpr ?_⟩
  rw [mapMatchers, Json.record?_mapField (by decide), hslot]
  exact ⟨_, rfl, htype, hlabel, hgroup', hpartitions⟩

lemma exists_mem_of_matcherItems {json item : Json} {c : ConditionDefinition}
    (h : ofJson? json = some c) (hi : item ∈ matcherItems json) :
    ∃ attempt ∈ c.matcherGroup.matchers,
      Attempt.ofJson? MatcherDefinition.ofJson? item = some attempt := by
  obtain ⟨slot, hslot, -, -, hgroup, -⟩ := ofJson?_eq_some_iff.mp h
  obtain ⟨group, hs, hdecode⟩ := Json.Slot.required?_eq_some_iff.mp hgroup
  rw [matcherItems, Json.field?, hslot, Option.bind_some, hs] at hi
  exact MatcherGroup.exists_mem_of_matcherItems hdecode hi

end ConditionDefinition

namespace FlagDefinition

lemma ofJson?_eq_some_iff {json : Json} {d : FlagDefinition} :
    ofJson? json = some d ↔ ∃ slot, json.record? fieldNames = some slot ∧
      (slot "name").required? Json.string? = some d.name ∧
      (slot "seed").required? Json.int32? = some d.seed ∧
      (slot "trafficAllocation").withDefault? 100 Json.int32? = some d.trafficAllocation ∧
      (slot "trafficAllocationSeed").withDefault? 0 Json.int32? = some d.trafficAllocationSeed ∧
      (slot "algo").withDefault? .legacy HashAlgorithm.ofJson? = some d.algo ∧
      (slot "killed").withDefault? false Json.bool? = some d.killed ∧
      (slot "defaultTreatment").required? Json.string? = some d.defaultTreatment ∧
      (slot "changeNumber").withDefault? 0 Json.int64? = some d.changeNumber ∧
      (slot "configurations").withDefault? none (Json.nullable? configurationsOfJson?) =
        some d.configurations ∧
      (slot "conditions").withDefault? [] (Json.list? ConditionDefinition.ofJson?) =
        some d.conditions := by
  simp only [ofJson?, Option.bind_eq_bind, Option.bind_eq_some_iff, Option.pure_def,
    Option.some.injEq]
  constructor
  · rintro ⟨slot, hslot, name, hname, seed, hseed, traffic, htraffic, trafficSeed, htrafficSeed,
      algo, halgo, killed, hkilled, default, hdefault, change, hchange, configurations,
      hconfigurations, conditions, hconditions, rfl⟩
    exact ⟨slot, hslot, hname, hseed, htraffic, htrafficSeed, halgo, hkilled, hdefault, hchange,
      hconfigurations, hconditions⟩
  · rintro ⟨slot, hslot, hname, hseed, htraffic, htrafficSeed, halgo, hkilled, hdefault, hchange,
      hconfigurations, hconditions⟩
    exact ⟨slot, hslot, _, hname, _, hseed, _, htraffic, _, htrafficSeed, _, halgo, _, hkilled, _,
      hdefault, _, hchange, _, hconfigurations, _, hconditions, rfl⟩

def matcherItems (json : Json) : List Json :=
  ((json.field? fieldNames "conditions").elim [] Json.items).flatMap
    ConditionDefinition.matcherItems

def replaceMatchers (replacement : Nat → Nat → Option Json) (json : Json) : Json :=
  json.mapField fieldNames "conditions" <| Json.mapItems fun i =>
    ConditionDefinition.mapMatchers fun j item => (replacement i j).getD item

lemma exists_ofJson?_replaceMatchers {replacement : Nat → Nat → Option Json}
    (hr : ∀ i j value, replacement i j = some value → value.isComplete = true) {json : Json}
    {d : FlagDefinition} (h : ofJson? json = some d) :
    ∃ conditions, ofJson? (replaceMatchers replacement json) = some { d with conditions } := by
  obtain ⟨slot, hslot, hname, hseed, htraffic, htrafficSeed, halgo, hkilled, hdefault, hchange,
    hconfigurations, hconditions⟩ := ofJson?_eq_some_iff.mp h
  have hitems : ∀ i j item, item.isComplete = true →
      ((replacement i j).getD item).isComplete = true := by
    intro i j item hi
    cases hv : replacement i j with
    | none => exact hi
    | some value => exact hr i j value hv
  obtain ⟨conditions, hconditions'⟩ := Json.Slot.exists_withDefault?_map hconditions fun _ =>
    Json.isSome_list?_mapItems fun i _ =>
      ConditionDefinition.isSome_ofJson?_mapMatchers (hitems i)
  refine ⟨conditions, ofJson?_eq_some_iff.mpr ?_⟩
  -- Nothing but the conditions has changed, so the other fields decode as before.
  rw [replaceMatchers, Json.record?_mapField (by decide), hslot]
  exact ⟨_, rfl, hname, hseed, htraffic, htrafficSeed, halgo, hkilled, hdefault, hchange,
    hconfigurations, hconditions'⟩

lemma exists_mem_of_matcherItems {json item : Json} {d : FlagDefinition}
    (h : ofJson? json = some d) (hi : item ∈ matcherItems json) :
    ∃ c ∈ d.conditions, ∃ attempt ∈ c.matcherGroup.matchers,
      Attempt.ofJson? MatcherDefinition.ofJson? item = some attempt := by
  obtain ⟨slot, hslot, -, -, -, -, -, -, -, -, -, hconditions⟩ := ofJson?_eq_some_iff.mp h
  obtain ⟨condition, hcondition, hitem⟩ := List.mem_flatMap.mp hi
  rw [Json.field?, hslot, Option.bind_some] at hcondition
  cases hs : slot "conditions" with
  | given conditions =>
    rw [hs] at hcondition hconditions
    obtain ⟨c, hc, hdecode⟩ := Json.exists_mem_of_list? hconditions hcondition
    exact ⟨c, hc, ConditionDefinition.exists_mem_of_matcherItems hdecode hitem⟩
  | omitted => rw [hs] at hcondition; cases hcondition
  | pastEnd => rw [hs] at hcondition; cases hcondition

end FlagDefinition

namespace FeatureFlag

lemma conditions_compile_eq_unsupported {json item : Json} {d : FlagDefinition}
    (h : FlagDefinition.ofJson? json = some d) (hi : item ∈ FlagDefinition.matcherItems json)
    (hu : ∀ m, MatcherDefinition.ofJson? item = some m → m.carriesData = false) :
    (compile d).conditions = [.unsupported] := by
  obtain ⟨c, hc, attempt, ha, hattempt⟩ := FlagDefinition.exists_mem_of_matcherItems h hi
  have hparsed : ∀ m, attempt = .parsed m → m.carriesData = false := by
    rintro m rfl
    exact hu m (Attempt.eq_some_of_parsed hattempt)
  exact compileConditions_eq_unsupported hc ha (Condition.compileMatcher?_eq_none hparsed)

/-- What a flag gives that is served to nobody because of a matcher. -/
inductive OutOfService (flag : FeatureFlag) (bucketingKey : String) (e : Evaluation) : Prop
  | killed (hkilled : flag.killed = true) (he : e.Carries flag flag.defaultTreatment "killed")
  | outsideTraffic (hlive : flag.killed = false) (hout : flag.LeavesOut bucketingKey)
      (he : e.Carries flag flag.defaultTreatment "not in split")
  | unsupported (hlive : flag.killed = false) (hin : ¬ flag.LeavesOut bucketingKey)
      (he : e.Carries flag "control" "targeting rule type unsupported by sdk")

section Evaluation

variable {flag : FeatureFlag} {ctx : EvaluationContext} {evaluation : Evaluation}

lemma exists_outOfService (flag : FeatureFlag) (ctx : EvaluationContext) :
    ∃ evaluation, flag.OutOfService ctx.bucketingKey evaluation ∧
      (flag.withConditions [.unsupported]).inquiry ctx = .done evaluation := by
  rw [inquiry, inquiryOf_withConditions]
  change ∃ evaluation, _ ∧ (if flag.killed then _ else flag.inquiryOf ctx 0 [.unsupported]) = _
  cases hlive : flag.killed with
  | true => exact ⟨_, .killed hlive (Evaluation.carries_ofFlag _ _ _), rfl⟩
  | false =>
    by_cases hout : flag.LeavesOut ctx.bucketingKey
    · refine ⟨_, .outsideTraffic hlive hout (Evaluation.carries_ofFlag _ _ _), ?_⟩
      rw [if_neg Bool.false_ne_true, inquiryOf, if_pos ⟨rfl, isInTraffic_eq_false_iff.mpr hout⟩]
      rfl
    · refine ⟨_, .unsupported hlive hout (Evaluation.carries_ofFlag _ _ _), ?_⟩
      rw [if_neg Bool.false_ne_true, inquiryOf,
        if_neg fun h => hout (isInTraffic_eq_false_iff.mp h.2)]
      rfl

lemma runFrom_evaluate_of_done (h : flag.inquiry ctx = .done evaluation) (dependency : Dependency)
    (s : Progress) : (flag.evaluate ctx dependency).runFrom s = (.ok evaluation, s) := by
  have hrun : ((flag.inquiry ctx).run ctx dependency).runFrom
      { s with inProgress := flag.name :: s.inProgress } =
        (.ok evaluation, { s with inProgress := flag.name :: s.inProgress }) := by
    rw [h]
    rfl
  rw [runFrom_evaluate hrun, List.erase_cons_head]

lemma outcome_evaluateByName_of_done {name : String} (hf : ctx.flag? name = some flag)
    (h : flag.inquiry ctx = .done evaluation) :
    (ctx.evaluateByName ctx.depthLimit name).outcome = ⟨.ok evaluation, []⟩ := by
  rw [EvaluationContext.outcome_evaluateByName_of_some hf]
  exact outcome_eq (runFrom_evaluate_of_done h _ _)

end Evaluation

lemma ofText_eq_ok_iff {text : String} {json : Json} (h : Json.read? text = some json)
    {f : FeatureFlag} :
    ofText text = .ok f ↔ ∃ d, FlagDefinition.ofJson? json = some d ∧ compile d = f := by
  rw [ofText, h, Option.bind_some, ofJson?]
  cases FlagDefinition.ofJson? json <;> simp

lemma OutOfService.unique {flag : FeatureFlag} {bucketingKey : String} {e e' : Evaluation}
    (h : flag.OutOfService bucketingKey e) (h' : flag.OutOfService bucketingKey e') : e = e' := by
  cases h with
  | killed hkilled he =>
    cases h' with
    | killed _ he' => exact he.unique he'
    | outsideTraffic hlive | unsupported hlive => cases hlive.symm.trans hkilled
  | outsideTraffic hlive hout he =>
    cases h' with
    | killed hkilled => cases hlive.symm.trans hkilled
    | outsideTraffic _ _ he' => exact he.unique he'
    | unsupported _ hin => exact absurd hout hin
  | unsupported hlive hin he =>
    cases h' with
    | killed hkilled => cases hlive.symm.trans hkilled
    | outsideTraffic _ hout => exact absurd hout hin
    | unsupported _ _ he' => exact he.unique he'

/-- Whatever the matchers of an accepted definition are replaced with, it is accepted, and only its
conditions may have changed. If one of them is then no matcher, or lacks the data that its type asks
for, the flag answers for itself, asking neither segments nor other flags. -/
theorem ofText_replaceMatchers {text text' : String} {json : Json}
    {replacement : Nat → Nat → Option Json} {f : FeatureFlag}
    (hread : Json.read? text = some json) (haccepted : ofText text = .ok f)
    (hcomplete : ∀ i j value, replacement i j = some value → value.isComplete = true)
    (hread' : Json.read? text' = some (FlagDefinition.replaceMatchers replacement json)) :
    ∃ f', ofText text' = .ok f' ∧ f' = { f with conditions := f'.conditions } ∧
      ((∃ item ∈ FlagDefinition.matcherItems (FlagDefinition.replaceMatchers replacement json),
          ∀ m, MatcherDefinition.ofJson? item = some m → m.carriesData = false) →
        (∀ (ctx : EvaluationContext) (dependency : Dependency), ∃ evaluation,
          f.OutOfService ctx.bucketingKey evaluation ∧
            ∀ s, (f'.evaluate ctx dependency).runFrom s = (.ok evaluation, s)) ∧
        ∀ (e : Evaluator) (key : String) (bucketingKey : Option String) (attributes : Attributes),
          ∃ evaluation, f.OutOfService (bucketingKey.getD key) evaluation ∧
            e.evaluateFlag f' key bucketingKey attributes = ⟨.ok evaluation, []⟩ ∧
            ∀ name, (e.context key bucketingKey attributes).flag? name = some f' →
              e.evaluate name key bucketingKey attributes = ⟨.ok evaluation, []⟩) := by
  obtain ⟨d, hd, rfl⟩ := (ofText_eq_ok_iff hread).mp haccepted
  obtain ⟨conditions, hd'⟩ := FlagDefinition.exists_ofJson?_replaceMatchers hcomplete hd
  refine ⟨compile { d with conditions }, (ofText_eq_ok_iff hread').mpr ⟨_, hd', rfl⟩, rfl, ?_⟩
  rintro ⟨item, hi, hu⟩
  have hdone (ctx : EvaluationContext) : ∃ evaluation,
      (compile d).OutOfService ctx.bucketingKey evaluation ∧
        (compile { d with conditions }).inquiry ctx = .done evaluation := by
    have hcompiled : compile { d with conditions } = (compile d).withConditions [.unsupported] := by
      rw [← conditions_compile_eq_unsupported hd' hi hu]
      rfl
    rw [hcompiled]
    exact (compile d).exists_outOfService ctx
  constructor
  · intro ctx dependency
    obtain ⟨evaluation, hrow, hdone⟩ := hdone ctx
    exact ⟨evaluation, hrow, runFrom_evaluate_of_done hdone dependency⟩
  · intro e key bucketingKey attributes
    obtain ⟨evaluation, hrow, hdone⟩ := hdone (e.context key bucketingKey attributes)
    refine ⟨evaluation, hrow, outcome_eq (runFrom_evaluate_of_done hdone _ _), fun name hf => ?_⟩
    exact outcome_evaluateByName_of_done hf hdone

section Search

def searchText (killed : Bool) (matcher : String) : String :=
  "\x7b\"name\":\"search\",\"seed\":1,\"trafficAllocation\":20,\"killed\":" ++
    (if killed then "true" else "false") ++ ",\"defaultTreatment\":\"off\",\"changeNumber\":7," ++
    "\"configurations\":\x7b\"control\":\"grey\"\x7d," ++
    "\"conditions\":[\x7b\"matcherGroup\":\x7b\"matchers\":[" ++ matcher ++ "]\x7d\x7d]\x7d"

def searchJson (killed : Bool) (matcher : Json) : Json :=
  .object [("name", .string "search"), ("seed", .ofInt 1), ("trafficAllocation", .ofInt 20),
    ("killed", .bool killed), ("defaultTreatment", .string "off"),
    ("changeNumber", .ofInt 7), ("configurations", .object [("control", .string "grey")]),
    ("conditions", .array [.object [("matcherGroup", .object [("matchers", .array [matcher])])]])]

def searchFlag (killed : Bool) : FeatureFlag where
  name := "search"
  seed := 1
  trafficAllocation := 20
  trafficAllocationSeed := 0
  killed := killed
  defaultTreatment := "off"
  changeNumber := 7
  algo := .legacy
  conditions := [⟨.whitelist, .all, [.onKey .present], [], ""⟩]
  configurations := .ofList [("control", "grey")]

set_option maxRecDepth 8192 in
lemma read?_searchText (killed : Bool) :
    Json.read? (searchText killed "\x7b\"matcherType\":\"ALL_KEYS\"\x7d") =
        some (searchJson killed (.object [("matcherType", .string "ALL_KEYS")])) ∧
      Json.read? (searchText killed "null") = some (searchJson killed .null) := by
  -- The characters of a long text take long to compute, those of its pieces do not.
  rw [Json.read?, Json.read?]
  delta searchText
  simp only [String.toList_append]
  constructor
  · cases killed <;> rfl
  · cases killed <;> rfl

theorem ofText_replaceMatchers_search :
    ∃ f f', ofText (searchText true "null") = .ok f ∧ ofText (searchText false "null") = .ok f' ∧
      ∀ (e : Evaluator) (attributes : Attributes),
        e.evaluateFlag f "user-1" none attributes = ⟨.ok ⟨"off", "killed", 7, none⟩, []⟩ ∧
        e.evaluateFlag f' "user-1" none attributes = ⟨.ok ⟨"off", "not in split", 7, none⟩, []⟩ ∧
        e.evaluateFlag f' "user-8" none attributes =
          ⟨.ok ⟨"control", "targeting rule type unsupported by sdk", 7, some "grey"⟩, []⟩ := by
  have hserved (killed : Bool) : ∃ f', ofText (searchText killed "null") = .ok f' ∧
      ∀ (e : Evaluator) (key : String) (attributes : Attributes) (evaluation : Evaluation),
        (searchFlag killed).OutOfService key evaluation →
          e.evaluateFlag f' key none attributes = ⟨.ok evaluation, []⟩ := by
    obtain ⟨hread, hread'⟩ := read?_searchText killed
    have hf : ofText (searchText killed "\x7b\"matcherType\":\"ALL_KEYS\"\x7d") =
        .ok (searchFlag killed) := by
      rw [ofText, hread]
      rfl
    obtain ⟨f', hf', -, hserved⟩ := @ofText_replaceMatchers _ _ _ (fun _ _ => some .null) _
      hread hf (by simp [Json.isComplete]) hread'
    have hnull : ∃ item ∈ FlagDefinition.matcherItems (searchJson killed .null),
        ∀ m, MatcherDefinition.ofJson? item = some m → m.carriesData = false :=
      ⟨.null, List.mem_singleton_self _, by rintro m ⟨⟩⟩
    refine ⟨f', hf', fun e key attributes evaluation hrow => ?_⟩
    obtain ⟨evaluation', hrow', hevaluate, -⟩ := (hserved hnull).2 e key none attributes
    rw [hevaluate, hrow'.unique hrow]
  obtain ⟨f, hf, hkilled⟩ := hserved true
  obtain ⟨f', hf', hlive⟩ := hserved false
  have hout : (searchFlag false).LeavesOut "user-1" := by
    rw [← isInTraffic_eq_false_iff]
    decide +kernel
  have hin : ¬ (searchFlag false).LeavesOut "user-8" := by
    rw [← isInTraffic_eq_false_iff]
    decide +kernel
  refine ⟨f, f', hf, hf', fun e attributes => ⟨?_, ?_, ?_⟩⟩
  · exact hkilled e _ attributes _ (.killed rfl ⟨rfl, rfl, rfl, rfl⟩)
  · exact hlive e _ attributes _ (.outsideTraffic rfl hout ⟨rfl, rfl, rfl, rfl⟩)
  · exact hlive e _ attributes _ (.unsupported rfl hin ⟨rfl, rfl, rfl, rfl⟩)

end Search

end FeatureFlag

end Rollout
