import Rollout.Configuration
import Rollout.Proofs.Definition.Unsupported

/-! Each element of an array either defines a flag or is as good as not there, and of those that
define the same flag the last one counts. -/

namespace Rollout

section Elements

variable {α : Type} {decode : Json → Option α}

lemma Json.isComplete_array_iff {items : List Json} :
    (Json.array items).isComplete = true ↔ ∀ item ∈ items, item.isComplete = true := by
  rw [isComplete]
  induction items with
  | nil => simp [areComplete]
  | cons item rest ih => rw [areComplete, Bool.and_eq_true, ih, List.forall_mem_cons]

lemma Attempt.value?_of_ofJson? {json : Json} {attempt : Attempt α}
    (h : ofJson? decode json = some attempt) : attempt.value? = decode json := by
  rw [ofJson?] at h
  split at h
  · cases hd : decode json with
    | none =>
      rw [hd] at h
      obtain rfl := Option.some.inj h
      rfl
    | some value =>
      rw [hd] at h
      obtain rfl := Option.some.inj h
      rfl
  · cases h

lemma Attempt.filterMap_value? {items : List Json} {attempts : List (Attempt α)}
    (h : items.mapM (ofJson? decode) = some attempts) :
    attempts.filterMap value? = items.filterMap decode := by
  induction items generalizing attempts with
  | nil =>
    obtain rfl := Option.some.inj h
    rfl
  | cons item rest ih =>
    simp only [List.mapM_cons, Option.bind_eq_bind, Option.bind_eq_some_iff] at h
    obtain ⟨attempt, ha, others, ho, hattempts⟩ := h
    obtain rfl : attempt :: others = attempts := Option.some.inj hattempts
    rw [List.filterMap_cons, List.filterMap_cons, value?_of_ofJson? ha, ih ho]

lemma Attempt.isSome_list?_iff (decode : Json → Option α) {json : Json} :
    (json.list? (ofJson? decode)).isSome ↔ ∃ items, json = .array items ∧ json.isComplete = true := by
  cases json with
  | array items =>
    simp only [Json.list?, isSome_mapM_iff, isSome_ofJson?, Json.isComplete_array_iff,
      Json.array.injEq, exists_and_right, exists_eq', true_and]
  | _ => simp [Json.list?]

end Elements

namespace Configuration

lemma flag?_ofFlags (flags : List FeatureFlag) (name : String) :
    (ofFlags flags).flag? name = flags.reverse.find? fun flag => flag.name = name := by
  change (Dictionary.ofList (flags.map fun flag => (flag.name, flag))).find? name = _
  rw [Dictionary.find?_ofList, ← List.map_reverse, List.find?_map, Option.map_map]
  exact Option.map_id'

def definitions (items : List Json) : List FlagDefinition :=
  items.filterMap FlagDefinition.ofJson?

lemma ofJson?_array {items : List Json} (h : (Json.array items).isComplete = true) :
    ofJson? (.array items) = some (ofFlags ((definitions items).map FeatureFlag.compile)) := by
  obtain ⟨attempts, ha⟩ := Option.isSome_iff_exists.mp
    ((Attempt.isSome_list?_iff FlagDefinition.ofJson?).mpr ⟨items, rfl, h⟩)
  rw [ofJson?, ha, Option.map_some, Attempt.filterMap_value? ha]
  rfl

def LastDefines (items : List Json) (name : String) (d : FlagDefinition) : Prop :=
  ∃ before item after, items = before ++ item :: after ∧ FlagDefinition.ofJson? item = some d ∧
    d.name = name ∧ ∀ later ∈ after, ∀ d', FlagDefinition.ofJson? later = some d' → d'.name ≠ name

lemma lastDefines_iff {items : List Json} {name : String} {d : FlagDefinition} :
    LastDefines items name d ↔
      (definitions items).reverse.find? (fun d => d.name = name) = some d := by
  rw [definitions, ← List.filterMap_reverse, List.find?_filterMap, Option.bind_eq_some_iff]
  constructor
  · rintro ⟨before, item, after, rfl, hd, hn, hlast⟩
    refine ⟨item, List.find?_eq_some_iff_append.mpr ⟨by simp [hd, hn], ?_⟩, hd⟩
    refine ⟨after.reverse, before.reverse, by simp, fun later hl => ?_⟩
    have hother := hlast later (List.mem_reverse.mp hl)
    cases hf : FlagDefinition.ofJson? later with
    | none => rfl
    | some d' => simpa using hother d' hf
  · rintro ⟨item, hfind, hd⟩
    obtain ⟨hname, after, before, hitems, hlast⟩ := List.find?_eq_some_iff_append.mp hfind
    refine ⟨before.reverse, item, after.reverse, by simpa using congrArg List.reverse hitems, hd, ?_,
      fun later hl d' hd' => ?_⟩
    · simpa [hd] using hname
    · simpa [hd'] using hlast later (List.mem_reverse.mp hl)

lemma flag?_compile_eq_some_iff {items : List Json} {name : String} {flag : FeatureFlag} :
    (ofFlags ((definitions items).map FeatureFlag.compile)).flag? name = some flag ↔
      ∃ d, LastDefines items name d ∧ FeatureFlag.compile d = flag := by
  rw [flag?_ofFlags, ← List.map_reverse, List.find?_map, Option.map_eq_some_iff]
  exact exists_congr fun d => and_congr_left fun _ => lastDefines_iff.symm

/-- From one list to the other, items that define no flag are put in or left out anywhere. -/
inductive UpToStrays : List Json → List Json → Prop
  | nil : UpToStrays [] []
  | keep (item : Json) {rest rest' : List Json} :
      UpToStrays rest rest' → UpToStrays (item :: rest) (item :: rest')
  | putIn {item : Json} {rest rest' : List Json} : FlagDefinition.ofJson? item = none →
      UpToStrays rest rest' → UpToStrays rest (item :: rest')
  | leaveOut {item : Json} {rest rest' : List Json} : FlagDefinition.ofJson? item = none →
      UpToStrays rest rest' → UpToStrays (item :: rest) rest'

lemma UpToStrays.definitions_eq {items items' : List Json} (h : UpToStrays items items') :
    definitions items = definitions items' := by
  simp only [definitions]
  induction h with
  | nil => rfl
  | keep item _ ih => rw [List.filterMap_cons, List.filterMap_cons, ih]
  | putIn hn _ ih => rw [List.filterMap_cons_none hn, ih]
  | leaveOut hn _ ih => rw [List.filterMap_cons_none hn, ih]

def HoldsArray (bytes : ByteArray) (items : List Json) : Prop :=
  Json.readBytes? bytes = some (.array items) ∧ (Json.array items).isComplete = true

lemma HoldsArray.ofBytes_eq {bytes : ByteArray} {items : List Json} (h : HoldsArray bytes items) :
    ofBytes bytes = .ok (ofFlags ((definitions items).map FeatureFlag.compile)) := by
  rw [ofBytes, load, h.1, Option.bind_some, ofJson?_array h.2]

lemma holdsArray_of_ofBytes {bytes : ByteArray} {c : Configuration} (h : ofBytes bytes = .ok c) :
    ∃ items, HoldsArray bytes items := by
  rw [ofBytes, load] at h
  cases hread : Json.readBytes? bytes with
  | none => simp [hread] at h
  | some json =>
    rw [hread, Option.bind_some, ofJson?] at h
    cases hlist : json.list? (Attempt.ofJson? FlagDefinition.ofJson?) with
    | none => simp [hlist] at h
    | some attempts =>
      obtain ⟨items, rfl, hc⟩ := (Attempt.isSome_list?_iff _).mp (Option.isSome_of_eq_some hlist)
      exact ⟨items, hread, hc⟩

/-- Exactly the documents that are arrays can be loaded. A name stands for the flag that the last
item with this name defines, and items that define no flag make no difference. -/
theorem ofBytes_lastDefines (bytes : ByteArray) :
    ((∃ c, ofBytes bytes = .ok c) ↔ ∃ items, HoldsArray bytes items) ∧
      ∀ items, HoldsArray bytes items → ∃ c, ofBytes bytes = .ok c ∧
        (∀ name flag, c.flag? name = some flag ↔
          ∃ d, LastDefines items name d ∧ FeatureFlag.compile d = flag) ∧
        ∀ bytes' items', HoldsArray bytes' items' → UpToStrays items items' →
          ofBytes bytes' = .ok c := by
  refine ⟨⟨?_, ?_⟩, fun items h => ⟨_, h.ofBytes_eq, ?_, ?_⟩⟩
  · rintro ⟨c, hc⟩
    exact holdsArray_of_ofBytes hc
  · rintro ⟨items, h⟩
    exact ⟨_, h.ofBytes_eq⟩
  · exact fun name flag => flag?_compile_eq_some_iff
  · intro bytes' items' h' hstrays
    rw [h'.ofBytes_eq, hstrays.definitions_eq]

section Sample

def searchDefinition (seed : Int) (defaultTreatment : String) : Json :=
  .object [("name", .string "search"), ("seed", .ofInt seed),
    ("defaultTreatment", .string defaultTreatment)]

def twiceDefined : String :=
  "[\x7b\"name\":\"search\",\"seed\":1,\"defaultTreatment\":\"off\"\x7d,7," ++
    "\x7b\"name\":\"search\",\"seed\":2,\"defaultTreatment\":\"on\"\x7d]"

def definedOnce : String :=
  "[\x7b\"name\":null\x7d,\x7b\"name\":\"search\",\"seed\":1,\"defaultTreatment\":\"off\"\x7d," ++
    "\x7b\"name\":\"search\",\"seed\":2,\"defaultTreatment\":\"on\"\x7d]"

lemma holdsArray_toUTF8 {text : String} {items : List Json}
    (hread : Json.read? text = some (.array items)) (hc : (Json.array items).isComplete = true) :
    HoldsArray text.toUTF8 items := by
  have htext : String.fromUTF8? text.toUTF8 = some text := by
    rw [String.fromUTF8?, String.toUTF8_eq_toByteArray, dif_pos text.isValidUTF8]
    rfl
  exact ⟨by rw [Json.readBytes?, htext, Option.bind_some, hread], hc⟩

set_option maxRecDepth 4096 in
theorem ofBytes_lastDefines_search :
    ∃ c, ofBytes twiceDefined.toUTF8 = .ok c ∧ ofBytes definedOnce.toUTF8 = .ok c ∧
      ((c.flag? "search").map fun flag => flag.defaultTreatment) = some "on" ∧
      c.flag? "banner" = none := by
  let items := [searchDefinition 1 "off", .ofInt 7, searchDefinition 2 "on"]
  let items' := [.object [("name", .null)], searchDefinition 1 "off", searchDefinition 2 "on"]
  have h : HoldsArray twiceDefined.toUTF8 items := holdsArray_toUTF8 rfl rfl
  have h' : HoldsArray definedOnce.toUTF8 items' := holdsArray_toUTF8 rfl rfl
  have hstrays : UpToStrays items items' :=
    .putIn rfl (.keep _ (.leaveOut rfl (.keep _ .nil)))
  obtain ⟨c, hc, hflag, hsame⟩ := (ofBytes_lastDefines twiceDefined.toUTF8).2 items h
  refine ⟨c, hc, hsame _ items' h' hstrays, ?_, ?_⟩
  · have hlast : ∃ d, FlagDefinition.ofJson? (searchDefinition 2 "on") = some d ∧
        d.name = "search" ∧ d.defaultTreatment = "on" := ⟨_, rfl, rfl, rfl⟩
    obtain ⟨d, hd, hn, ht⟩ := hlast
    have hfound := (hflag "search" _).mpr
      ⟨d, ⟨[searchDefinition 1 "off", .ofInt 7], searchDefinition 2 "on", [], rfl, hd, hn, by simp⟩, rfl⟩
    rw [hfound, Option.map_some]
    exact congrArg some ht
  · cases hb : c.flag? "banner" with
    | none => rfl
    | some flag =>
      obtain ⟨d, hd, -⟩ := (hflag "banner" flag).mp hb
      have hnone : (definitions items).reverse.find? (fun d => d.name = "banner") = none := rfl
      rw [lastDefines_iff, hnone] at hd
      cases hd

end Sample

end Configuration

end Rollout
