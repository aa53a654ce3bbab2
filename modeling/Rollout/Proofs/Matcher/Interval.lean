import Rollout.Proofs.Matcher.Outcome
import Rollout.Proofs.Time

/-! Dates are compared by the minutes that they fall in, and are equal when they fall on one day, so
a bound admits the whole of its minute or day, before the epoch as well. -/

namespace Rollout

inductive NumericRule
  | equalTo (threshold : Threshold)
  | atLeast (threshold : Threshold)
  | atMost (threshold : Threshold)
  | between (range : NumericRange)
  deriving DecidableEq, Repr

namespace NumericRule

open Time

def dataType : NumericRule → DataType
  | equalTo t | atLeast t | atMost t => t.dataType
  | between r => r.dataType

def bounds : NumericRule → List Int64
  | equalTo t | atLeast t | atMost t => [t.value]
  | between r => [r.start, r.finish]

def admits (rule : NumericRule) (x : Int) : Bool :=
  match rule with
  | equalTo ⟨.number, v⟩ => x = v.toInt
  | equalTo ⟨.datetime, v⟩ => startOf day v ≤ x && x < startOf day v + day
  | atLeast ⟨.number, v⟩ => v.toInt ≤ x
  | atLeast ⟨.datetime, v⟩ => startOf minute v ≤ x
  | atMost ⟨.number, v⟩ => x ≤ v.toInt
  | atMost ⟨.datetime, v⟩ => x < startOf minute v + minute
  | between ⟨.number, s, e⟩ => s.toInt ≤ x && x ≤ e.toInt
  | between ⟨.datetime, s, e⟩ => startOf minute s ≤ x && x < startOf minute e + minute

lemma admits_between (r : NumericRange) (x : Int) :
    (between r).admits x =
      ((atLeast ⟨r.dataType, r.start⟩).admits x && (atMost ⟨r.dataType, r.finish⟩).admits x) := by
  obtain ⟨dataType, s, e⟩ := r
  cases dataType <;> rfl

end NumericRule

def MatcherDefinition.numericRule? (d : MatcherDefinition) : Option NumericRule :=
  match d.matcherType with
  | .equalTo => d.threshold.map .equalTo
  | .atLeast => d.threshold.map .atLeast
  | .atMost => d.threshold.map .atMost
  | .between => d.numericRange.map .between
  | _ => none

namespace Time

variable {unit : Int} {x v : Int64}

lemma toInt_floorTo_of_room (hunit : 0 < unit) (hday : unit ≤ day)
    (h : Int64.minValue.toInt + day ≤ x.toInt) : (floorTo unit x).toInt = startOf unit x := by
  -- One day of room below a time is enough for its unit to start within the range.
  have hlt : x.toInt < startOf unit x + unit := lt_startOf_add hunit x
  apply toInt_floorTo hunit
  omega

section Room

variable (hunit : 0 < unit) (hday : unit ≤ day) (hx : Int64.minValue.toInt + day ≤ x.toInt)
  (hv : Int64.minValue.toInt + day ≤ v.toInt)

include hunit hday hx hv

lemma floorTo_ge_iff : floorTo unit v ≤ floorTo unit x ↔ startOf unit v ≤ x.toInt := by
  rw [Int64.le_iff_toInt_le, toInt_floorTo_of_room hunit hday hx,
    toInt_floorTo_of_room hunit hday hv, startOf_le_startOf_iff hunit]

lemma floorTo_le_iff : floorTo unit x ≤ floorTo unit v ↔ x.toInt < startOf unit v + unit := by
  rw [Int64.le_iff_toInt_le, toInt_floorTo_of_room hunit hday hx,
    toInt_floorTo_of_room hunit hday hv, startOf_le_startOf_iff_lt hunit]

lemma floorTo_eq_iff :
    floorTo unit x = floorTo unit v ↔ startOf unit v ≤ x.toInt ∧ x.toInt < startOf unit v + unit := by
  rw [← floorTo_ge_iff hunit hday hx hv, ← floorTo_le_iff hunit hday hx hv]
  constructor
  · intro h
    rw [h]
    exact ⟨Int64.le_refl _, Int64.le_refl _⟩
  · exact fun h => Int64.le_antisymm h.2 h.1

end Room

end Time

namespace NumericScale

variable {dataType : DataType} {x v : Int64}

section Room

variable (h : dataType = .datetime →
  Int64.minValue.toInt + Time.day ≤ x.toInt ∧ Int64.minValue.toInt + Time.day ≤ v.toInt)

include h

lemma normalize_ge_iff :
    (forOrder dataType).normalize v ≤ (forOrder dataType).normalize x ↔
      (NumericRule.atLeast ⟨dataType, v⟩).admits x.toInt = true := by
  cases dataType with
  | number =>
    rw [NumericRule.admits, decide_eq_true_eq]
    exact Int64.le_iff_toInt_le
  | datetime =>
    rw [NumericRule.admits, decide_eq_true_eq]
    exact Time.floorTo_ge_iff (by decide) (by decide) (h rfl).1 (h rfl).2

lemma normalize_le_iff :
    (forOrder dataType).normalize x ≤ (forOrder dataType).normalize v ↔
      (NumericRule.atMost ⟨dataType, v⟩).admits x.toInt = true := by
  cases dataType with
  | number =>
    rw [NumericRule.admits, decide_eq_true_eq]
    exact Int64.le_iff_toInt_le
  | datetime =>
    rw [NumericRule.admits, decide_eq_true_eq]
    exact Time.floorTo_le_iff (by decide) (by decide) (h rfl).1 (h rfl).2

lemma normalize_eq_iff :
    (forEquality dataType).normalize x = (forEquality dataType).normalize v ↔
      (NumericRule.equalTo ⟨dataType, v⟩).admits x.toInt = true := by
  cases dataType with
  | number =>
    rw [NumericRule.admits, decide_eq_true_eq]
    exact Int64.toInt_inj.symm
  | datetime =>
    rw [NumericRule.admits, Bool.and_eq_true, decide_eq_true_eq, decide_eq_true_eq]
    exact Time.floorTo_eq_iff (by decide) (by decide) (h rfl).1 (h rfl).2

end Room

end NumericScale

lemma InputTest.onInteger_eq {input : MatcherInput} {x : Int64} (hx : input.integer? = some x)
    (scale : NumericScale) (test : Int64 → Bool) :
    onInteger scale input test = test (scale.normalize x) := by
  rw [onInteger, hx]

namespace NumericRule

variable {d : MatcherDefinition} {rule : NumericRule} {input : MatcherInput} {x v : Int64}

/-- Dates are at least one day after the first time there is. -/
def HasRoom (rule : NumericRule) (x : Int64) : Prop :=
  rule.dataType = .datetime → ∀ v ∈ x :: rule.bounds, Int64.minValue.toInt + Time.day ≤ v.toInt

lemma HasRoom.bound (h : rule.HasRoom x) (hv : v ∈ rule.bounds) (hdate : rule.dataType = .datetime) :
    Int64.minValue.toInt + Time.day ≤ x.toInt ∧ Int64.minValue.toInt + Time.day ≤ v.toInt :=
  ⟨h hdate x List.mem_cons_self, h hdate v (List.mem_cons_of_mem x hv)⟩

lemma exists_test? (hrule : d.numericRule? = some rule) (hx : input.integer? = some x)
    (hroom : rule.HasRoom x) :
    ∃ test, d.test? = some test ∧ test.passes input = rule.admits x.toInt := by
  rw [MatcherDefinition.numericRule?] at hrule
  cases hd : d.matcherType with
  | equalTo =>
    rw [hd] at hrule
    obtain ⟨t, ht, rfl⟩ := Option.map_eq_some_iff.mp hrule
    refine ⟨_, by rw [MatcherDefinition.test?, hd, ht]; rfl, ?_⟩
    rw [InputTest.passes, InputTest.onInteger_eq hx, Bool.eq_iff_iff, beq_iff_eq]
    exact NumericScale.normalize_eq_iff (hroom.bound List.mem_cons_self)
  | atLeast =>
    rw [hd] at hrule
    obtain ⟨t, ht, rfl⟩ := Option.map_eq_some_iff.mp hrule
    refine ⟨_, by rw [MatcherDefinition.test?, hd, ht]; rfl, ?_⟩
    rw [InputTest.passes, InputTest.onInteger_eq hx, Bool.eq_iff_iff, decide_eq_true_eq]
    exact NumericScale.normalize_ge_iff (hroom.bound List.mem_cons_self)
  | atMost =>
    rw [hd] at hrule
    obtain ⟨t, ht, rfl⟩ := Option.map_eq_some_iff.mp hrule
    refine ⟨_, by rw [MatcherDefinition.test?, hd, ht]; rfl, ?_⟩
    rw [InputTest.passes, InputTest.onInteger_eq hx, Bool.eq_iff_iff, decide_eq_true_eq]
    exact NumericScale.normalize_le_iff (hroom.bound List.mem_cons_self)
  | between =>
    rw [hd] at hrule
    obtain ⟨r, hr, rfl⟩ := Option.map_eq_some_iff.mp hrule
    refine ⟨_, by rw [MatcherDefinition.test?, hd, hr]; rfl, ?_⟩
    rw [InputTest.passes, InputTest.onInteger_eq hx, admits_between, Bool.eq_iff_iff,
      Bool.and_eq_true, Bool.and_eq_true, decide_eq_true_eq, decide_eq_true_eq]
    exact and_congr (NumericScale.normalize_ge_iff (hroom.bound List.mem_cons_self))
      (NumericScale.normalize_le_iff (hroom.bound (List.mem_cons_of_mem _ List.mem_cons_self)))
  | _ =>
    rw [hd] at hrule
    cases hrule

theorem evaluate_numeric {m : Matcher} {ctx : EvaluationContext} (dependency : Dependency)
    (hm : Matcher.compile? d = some m) (hrule : d.numericRule? = some rule)
    (hinput : m.input? ctx.key ctx.attributes = some input) (hx : input.integer? = some x)
    (hroom : rule.HasRoom x) :
    m.evaluate ctx dependency = pure (m.negate ^^ rule.admits x.toInt) := by
  obtain ⟨test, htest, hpasses⟩ := exists_test? hrule hx hroom
  rw [Matcher.evaluate_of_test ctx dependency (Matcher.kind_of_compile? hm htest), hinput,
    Option.any_some, hpasses]

def aroundEpoch : NumericRange := ⟨.datetime, -30000, 61000⟩

def aroundEpochRule : MatcherDefinition :=
  { MatcherDefinition.ofType .between with numericRange := some aroundEpoch }

def aroundEpochMatcher : Matcher := ⟨.test (.between .minute (-60000) 60000), false, none⟩

def visitor : EvaluationContext := ⟨none, none, "-45000", "-45000", .ofList []⟩

theorem evaluate_numeric_aroundEpoch :
    aroundEpochMatcher.evaluate visitor (fun _ => pure none) = pure true := by
  have hm : Matcher.compile? aroundEpochRule = some aroundEpochMatcher := by rfl
  have hrule : aroundEpochRule.numericRule? = some (between aroundEpoch) := rfl
  have hinput : aroundEpochMatcher.input? visitor.key visitor.attributes = some (.key "-45000") :=
    rfl
  have hx : (MatcherInput.key "-45000").integer? = some (-45000) := by rfl
  have hroom : (between aroundEpoch).HasRoom (-45000) := by
    intro _ v hv
    have hvalues : v = -45000 ∨ v = -30000 ∨ v = 61000 := by simpa [bounds, aroundEpoch] using hv
    rcases hvalues with rfl | rfl | rfl <;> decide
  have hadmits : (between aroundEpoch).admits (-45000) = true := by decide
  have hevaluate := evaluate_numeric (fun _ => pure none) hm hrule hinput hx hroom
  exact hadmits ▸ hevaluate

end NumericRule

end Rollout
