import Rollout.Definition.Flag
import Rollout.Impression.Counter
import Rollout.Impression.Mode
import Rollout.Proofs.Json.RoundTrip

/-! A matcher that failed to decode is kept as the value it was, and fails again. -/

namespace Rollout

section Matchers

@[simp] lemma MatcherType.ofJson?_toJson (t : MatcherType) : ofJson? t.toJson = some t := by
  cases t <;> decide

@[simp] lemma DataType.ofJson?_toJson (t : DataType) : ofJson? t.toJson = some t := by
  cases t <;> decide

lemma KeySelector.ofJson?_toJson (s : KeySelector) : ofJson? s.toJson = some s := by
  simp [ofJson?, toJson, Json.record?_object, Json.nullable?_ofOption]

lemma Threshold.ofJson?_toJson (t : Threshold) : ofJson? t.toJson = some t := by
  simp [ofJson?, toJson, Json.record?_object]

lemma NumericRange.ofJson?_toJson (r : NumericRange) : ofJson? r.toJson = some r := by
  simp [ofJson?, toJson, Json.record?_object]

lemma TextRange.ofJson?_toJson (r : TextRange) : ofJson? r.toJson = some r := by
  simp [ofJson?, toJson, Json.record?_object]

lemma FlagTreatments.ofJson?_toJson (d : FlagTreatments) : ofJson? d.toJson = some d := by
  simp [ofJson?, toJson, Json.record?_object, Json.list?_ofList]

lemma segmentOfJson?_segmentToJson (segment : String) :
    segmentOfJson? (segmentToJson segment) = some segment := by
  simp [segmentOfJson?, segmentToJson, Json.record?_object]

lemma whitelistOfJson?_whitelistToJson (whitelist : List String) :
    whitelistOfJson? (whitelistToJson whitelist) = some whitelist := by
  simp [whitelistOfJson?, whitelistToJson, Json.record?_object, Json.list?_ofList]

lemma MatcherDefinition.ofJson?_toJson (m : MatcherDefinition) : ofJson? m.toJson = some m := by
  have hkey := Json.nullable?_ofOption (o := m.keySelector)
    (by simp [KeySelector.toJson]) KeySelector.ofJson?_toJson
  have hsegment := Json.nullable?_ofOption (o := m.segment)
    (by simp [segmentToJson]) segmentOfJson?_segmentToJson
  have hwhitelist := Json.nullable?_ofOption (o := m.whitelist)
    (by simp [whitelistToJson]) whitelistOfJson?_whitelistToJson
  have hthreshold := Json.nullable?_ofOption (o := m.threshold)
    (by simp [Threshold.toJson]) Threshold.ofJson?_toJson
  have hnumeric := Json.nullable?_ofOption (o := m.numericRange)
    (by simp [NumericRange.toJson]) NumericRange.ofJson?_toJson
  have htext := Json.nullable?_ofOption (o := m.textRange)
    (by simp [TextRange.toJson]) TextRange.ofJson?_toJson
  have hdependency := Json.nullable?_ofOption (o := m.dependency)
    (by simp [FlagTreatments.toJson]) FlagTreatments.ofJson?_toJson
  simp [ofJson?, toJson, fieldNames, Json.record?_object, Json.nullable?_ofOption, hkey, hsegment,
    hwhitelist, hthreshold, hnumeric, htext, hdependency]

end Matchers

section Scalars

@[simp] lemma ConditionType.ofJson?_toJson (t : ConditionType) : ofJson? t.toJson = some t := by
  cases t <;> decide

@[simp] lemma Combiner.ofJson?_toJson (c : Combiner) : ofJson? c.toJson = some c := by
  cases c; decide

@[simp] lemma HashAlgorithm.ofJson?_toJson (algo : HashAlgorithm) :
    ofJson? algo.toJson = some algo := by
  rw [ofJson?, toJson, Json.nullable?_of_ne_null (by simp [Json.ofInt]), Json.int64?_ofInt]
  exact congrArg some algo.ofCode_code

lemma ImpressionsMode.ofJson?_toJson (mode : ImpressionsMode) :
    ofJson? mode.toJson = some mode := by
  cases mode <;> decide

end Scalars

lemma Partition.ofJson?_toJson (p : Partition) : ofJson? p.toJson = some p := by
  have hslot : p.toJson.record? ["treatment", "size"] = some (Json.slotOfField
      [("treatment", .string p.treatment), ("size", .ofNat p.size.toNat)]) :=
    Json.record?_object rfl (by decide)
  -- The size is read back by itself: 2 ^ 32 must not be unfolded.
  have hsize := Json.uint32?_ofNat p.size
  rw [ofJson?, hslot, Option.bind_eq_bind, Option.bind_some]
  simp only [Json.slotOfField_cons, Json.required?_given, if_true, String.reduceEq, if_false,
    Json.string?_string]
  rw [hsize]
  rfl

lemma FeatureCount.ofJson?_toJson (c : FeatureCount) : ofJson? c.toJson = some c := by
  have hslot : c.toJson.record? ["feature", "timeFrame", "count"] = some (Json.slotOfField
      [("feature", .string c.feature), ("timeFrame", .ofInt c.timeFrame.toInt),
        ("count", .ofNat c.count.toNat)]) :=
    Json.record?_object rfl (by decide)
  have hcount := Json.uint64?_ofNat c.count
  rw [ofJson?, hslot, Option.bind_eq_bind, Option.bind_some]
  simp only [Json.slotOfField_cons, Json.required?_given, if_true, String.reduceEq, if_false,
    Json.string?_string, Json.int64?_ofInt]
  rw [hcount]
  rfl

lemma Impression.ofJson?_toJson (i : Impression) : ofJson? i.toJson = some i := by
  have htime : (Json.ofOption (fun t => .ofInt t.toInt) i.previousTime).nullable? Json.int64? =
      some i.previousTime :=
    Json.nullable?_ofOption (by simp [Json.ofInt]) Json.int64?_ofInt
  simp [ofJson?, toJson, fieldNames, Json.record?_object, Json.nullable?_ofOption, htime]

section Complete

lemma KeySelector.isComplete_toJson (s : KeySelector) : s.toJson.isComplete = true := by
  have hs := Json.isComplete_ofOption Json.isComplete_string
  simp [toJson, Json.isComplete, Json.fieldsComplete, Json.fieldComplete, hs]

lemma isComplete_segmentToJson (segment : String) : (segmentToJson segment).isComplete = true := by
  simp [segmentToJson, Json.isComplete, Json.fieldsComplete, Json.fieldComplete]

lemma isComplete_whitelistToJson (whitelist : List String) :
    (whitelistToJson whitelist).isComplete = true := by
  have hs := Json.isComplete_ofList Json.isComplete_string
  simp [whitelistToJson, Json.isComplete, Json.fieldsComplete, Json.fieldComplete, hs]

lemma Threshold.isComplete_toJson (t : Threshold) : t.toJson.isComplete = true := by
  simp [toJson, DataType.toJson, Json.isComplete, Json.fieldsComplete, Json.fieldComplete]

lemma NumericRange.isComplete_toJson (r : NumericRange) : r.toJson.isComplete = true := by
  simp [toJson, DataType.toJson, Json.isComplete, Json.fieldsComplete, Json.fieldComplete]

lemma TextRange.isComplete_toJson (r : TextRange) : r.toJson.isComplete = true := by
  simp [toJson, Json.isComplete, Json.fieldsComplete, Json.fieldComplete]

lemma FlagTreatments.isComplete_toJson (d : FlagTreatments) : d.toJson.isComplete = true := by
  have hs := Json.isComplete_ofList Json.isComplete_string
  simp [toJson, Json.isComplete, Json.fieldsComplete, Json.fieldComplete, hs]

lemma MatcherDefinition.isComplete_toJson (m : MatcherDefinition) : m.toJson.isComplete = true := by
  have hb := Json.isComplete_ofOption Json.isComplete_bool
  have hs := Json.isComplete_ofOption Json.isComplete_string
  simp [toJson, hb, hs, MatcherType.toJson, Json.isComplete, Json.fieldsComplete,
    Json.fieldComplete, Json.isComplete_ofOption, KeySelector.isComplete_toJson,
    isComplete_segmentToJson, isComplete_whitelistToJson, Threshold.isComplete_toJson,
    NumericRange.isComplete_toJson, TextRange.isComplete_toJson, FlagTreatments.isComplete_toJson]

end Complete

section Attempts

variable {α : Type} {encode : α → Json} {decode : Json → Option α}

/-- What failed to decode is kept as a value that the decoder refuses. -/
def Attempt.Sound (decode : Json → Option α) : Attempt α → Prop
  | .parsed _ => True
  | .failed source => source.Held ∧ decode source = none

lemma Attempt.ofJson?_toJson (hc : ∀ value, (encode value).isComplete = true)
    (hd : ∀ value, decode (encode value) = some value) {attempt : Attempt α}
    (h : attempt.Sound decode) : ofJson? decode (attempt.toJson encode) = some attempt := by
  cases attempt with
  | parsed value => rw [toJson, ofJson?, if_pos (hc value), hd]
  | failed source =>
    obtain ⟨hheld, hrefused⟩ := h
    rw [toJson, ofJson?, if_pos hheld.complete, hrefused, Json.collapse_eq_self hheld.distinct]

end Attempts

section Nested

def MatcherGroup.Sound (g : MatcherGroup) : Prop :=
  ∀ attempt ∈ g.matchers, attempt.Sound MatcherDefinition.ofJson?

lemma MatcherGroup.ofJson?_toJson {g : MatcherGroup} (h : g.Sound) :
    ofJson? g.toJson = some g := by
  have hmatchers := Json.list?_ofList fun attempt ha =>
    Attempt.ofJson?_toJson MatcherDefinition.isComplete_toJson MatcherDefinition.ofJson?_toJson
      (h attempt ha)
  simp [ofJson?, toJson, Json.record?_object, hmatchers]

def ConditionDefinition.Sound (c : ConditionDefinition) : Prop := c.matcherGroup.Sound

lemma ConditionDefinition.ofJson?_toJson {c : ConditionDefinition} (h : c.Sound) :
    ofJson? c.toJson = some c := by
  have hgroup := MatcherGroup.ofJson?_toJson h
  have hpartitions := Json.list?_ofList fun partition (_ : partition ∈ c.partitions) =>
    partition.ofJson?_toJson
  simp [ofJson?, toJson, Json.record?_object, hgroup, hpartitions]

def FlagDefinition.Sound (f : FlagDefinition) : Prop := ∀ condition ∈ f.conditions, condition.Sound

lemma FlagDefinition.configurationsOfJson?_ofDictionary (d : Dictionary String String) :
    configurationsOfJson? (.ofDictionary .string d) = some d := by
  rw [configurationsOfJson?, Json.fields?_ofDictionary d Json.string?_string, Option.map_some,
    Dictionary.ofList_entries]

lemma FlagDefinition.ofJson?_toJson {f : FlagDefinition} (h : f.Sound) :
    ofJson? f.toJson = some f := by
  have hconditions := Json.list?_ofList fun condition hc =>
    ConditionDefinition.ofJson?_toJson (h condition hc)
  have hconfigurations := Json.nullable?_ofOption (o := f.configurations)
    (by simp [Json.ofDictionary]) configurationsOfJson?_ofDictionary
  simp [ofJson?, toJson, fieldNames, Json.record?_object, hconditions, hconfigurations]

end Nested

/-- Decoding undoes encoding, in every format in which definitions, impressions and counts are
exchanged. -/
theorem decode_encode :
    (∀ f : FlagDefinition, f.Sound → FlagDefinition.ofJson? f.toJson = some f) ∧
    (∀ c : ConditionDefinition, c.Sound → ConditionDefinition.ofJson? c.toJson = some c) ∧
    (∀ g : MatcherGroup, g.Sound → MatcherGroup.ofJson? g.toJson = some g) ∧
    (∀ m : MatcherDefinition, MatcherDefinition.ofJson? m.toJson = some m) ∧
    (∀ p : Partition, Partition.ofJson? p.toJson = some p) ∧
    (∀ algo : HashAlgorithm, HashAlgorithm.ofJson? algo.toJson = some algo) ∧
    (∀ i : Impression, Impression.ofJson? i.toJson = some i) ∧
    (∀ c : FeatureCount, FeatureCount.ofJson? c.toJson = some c) ∧
    (∀ mode : ImpressionsMode, ImpressionsMode.ofJson? mode.toJson = some mode) :=
  ⟨fun _ => FlagDefinition.ofJson?_toJson, fun _ => ConditionDefinition.ofJson?_toJson,
    fun _ => MatcherGroup.ofJson?_toJson, MatcherDefinition.ofJson?_toJson,
    Partition.ofJson?_toJson, HashAlgorithm.ofJson?_toJson, Impression.ofJson?_toJson,
    FeatureCount.ofJson?_toJson, ImpressionsMode.ofJson?_toJson⟩

def mixedMatchers : MatcherGroup where
  combiner := .all
  matchers :=
    [.parsed { matcherType := .inSegment, negate := true, keySelector := some ⟨none, some "plan"⟩,
               segment := some "beta", whitelist := none, threshold := none, numericRange := none,
               textRange := none, dependency := none, boolean := none, text := none },
      .failed (.object [("matcherType", .string "IN_LARGE_SEGMENT"), ("negate", .bool false)])]

def mixedFlag : FlagDefinition where
  name := "search"
  seed := -7
  trafficAllocation := 80
  trafficAllocationSeed := 99
  algo := .murmur
  killed := false
  defaultTreatment := "off"
  changeNumber := 1710000000000
  configurations := some (.ofList [("on", "blue")])
  conditions := [⟨.rollout, "beta users", mixedMatchers, [⟨"on", 50⟩, ⟨"off", 50⟩]⟩]

theorem decode_encode_mixedFlag :
    mixedMatchers.Sound ∧ FlagDefinition.ofJson? mixedFlag.toJson = some mixedFlag ∧
      mixedFlag.conditions.map (fun c => ConditionDefinition.ofJson? c.toJson) =
        mixedFlag.conditions.map some ∧
      MatcherGroup.ofJson? mixedMatchers.toJson = some mixedMatchers := by
  have hgroup : mixedMatchers.Sound := by
    intro attempt ha
    obtain rfl | rfl := List.mem_pair.mp ha
    · exact trivial
    · refine ⟨⟨by simp [Json.isComplete, Json.fieldsComplete, Json.fieldComplete],
        by simp [Json.DistinctKeys, Json.fieldsDistinct, Json.fieldDistinct]⟩, by decide⟩
  have hflag : mixedFlag.Sound := fun condition hc => List.mem_singleton.mp hc ▸ hgroup
  exact ⟨hgroup, decode_encode.1 mixedFlag hflag,
    List.map_congr_left fun condition hc => decode_encode.2.1 condition (hflag condition hc),
    decode_encode.2.2.1 mixedMatchers hgroup⟩

end Rollout
