import Mathlib.Algebra.GroupWithZero.Nat
import Rollout.Impression.Counter
import Rollout.Proofs.Impression.Storage

namespace Rollout

def Time.InHour (hour : Int) (time : Int64) : Prop :=
  hour * Time.hour ≤ time.toInt ∧ time.toInt < hour * Time.hour + Time.hour

instance (hour : Int) (time : Int64) : Decidable (Time.InHour hour time) :=
  inferInstanceAs (Decidable (_ ∧ _))

def Time.wrappedStart (hour : Int) : Int :=
  if Int64.minValue.toInt ≤ hour * Time.hour then hour * Time.hour
  else hour * Time.hour + Int64.size

lemma Time.inHour_iff {hour : Int} {time : Int64} : InHour hour time ↔ hourOf time = hour := by
  have hle : hourOf time * Time.hour ≤ time.toInt := hourOf_mul_le time
  have hlt : time.toInt < hourOf time * Time.hour + Time.hour := lt_hourOf_mul_add time
  rw [InHour]
  rw [hour_eq] at *
  constructor
  · rintro ⟨hle', hlt'⟩
    omega
  · rintro rfl
    exact ⟨hle, hlt⟩

lemma Time.toInt_startOfHour_eq (time : Int64) :
    (startOfHour time).toInt = wrappedStart (hourOf time) := by
  rw [wrappedStart]
  split
  · rename_i h
    exact toInt_startOfHour h
  · rename_i h
    exact toInt_startOfHour_of_lt (Int.not_le.mp h)

inductive CounterCall
  | track (impressions : List Impression) (inc : UInt64)
  | popAll

namespace Counter

structure Addition where
  impressions : List Impression
  inc : UInt64

def pendingAfter (added : List Addition) : CounterCall → List Addition
  | .track impressions inc => ⟨impressions, inc⟩ :: added
  | .popAll => []

def pending (calls : List CounterCall) : List Addition := calls.foldl pendingAfter []

def Occurs (added : List Addition) (feature : String) (hour : Int) : Prop :=
  ∃ a ∈ added, ∃ i ∈ a.impressions, i.feature = feature ∧ Time.InHour hour i.time

def total (added : List Addition) (feature : String) (hour : Int) : Nat :=
  (added.map fun a => a.inc.toNat *
    a.impressions.countP fun i => i.feature = feature ∧ Time.InHour hour i.time).sum

def answer (c : Counter) : CounterCall → Option (List FeatureCount) × Counter
  | .track impressions inc => (none, c.track impressions inc)
  | .popAll => (some c.popAll.1, c.popAll.2)

def answers (c : Counter) : List CounterCall → List (Option (List FeatureCount))
  | [] => []
  | call :: rest => (c.answer call).1 :: (c.answer call).2.answers rest

def after (c : Counter) (calls : List CounterCall) : Counter :=
  calls.foldl (fun c call => (c.answer call).2) c

lemma answers_getElem? (c : Counter) (calls : List CounterCall) (i : Nat) :
    (c.answers calls)[i]? = calls[i]?.map fun call => ((c.after (calls.take i)).answer call).1 := by
  induction calls generalizing c i with
  | nil => rfl
  | cons call rest ih =>
    cases i with
    | zero => rfl
    | succ i => exact ih (c.answer call).2 i

def keys (added : List Addition) : List (String × Int64) :=
  added.flatMap fun a => a.impressions.map key

def sum (added : List Addition) (k : String × Int64) : Nat :=
  (added.map fun a => a.inc.toNat * (a.impressions.map key).count k).sum

section Track

variable (c : Counter) (impressions : List Impression) (inc : UInt64) (k : String × Int64)

lemma isSome_find?_track :
    ((c.track impressions inc).counts.find? k).isSome ↔
      k ∈ impressions.map key ∨ (c.counts.find? k).isSome := by
  induction impressions generalizing c with
  | nil => simp [track]
  | cons i rest ih =>
    have hrest : ((⟨addTo inc c.counts i⟩ : Counter).track rest inc).counts =
        (c.track (i :: rest) inc).counts := rfl
    rw [← hrest, ih, addTo, Dictionary.find?_insert, List.map_cons, List.mem_cons]
    by_cases hk : key i = k
    · simp [hk]
    · simp [hk, Ne.symm hk]

lemma getD_find?_track :
    ((c.track impressions inc).counts.find? k).getD 0 =
      (c.counts.find? k).getD 0 + UInt64.ofNat (inc.toNat * (impressions.map key).count k) := by
  induction impressions generalizing c with
  | nil => simp [track]
  | cons i rest ih =>
    have hrest : ((⟨addTo inc c.counts i⟩ : Counter).track rest inc).counts =
        (c.track (i :: rest) inc).counts := rfl
    rw [← hrest, ih, addTo, Dictionary.find?_insert, List.map_cons]
    by_cases hk : key i = k
    · rw [if_pos hk, hk, List.count_cons_self, Nat.mul_succ, UInt64.ofNat_add, UInt64.ofNat_toNat,
        Option.getD_some, UInt64.add_assoc, UInt64.add_comm inc]
    · rw [if_neg hk, List.count_cons_of_ne hk]

end Track

structure Holds (c : Counter) (added : List Addition) : Prop where
  isSome_iff : ∀ k, (c.counts.find? k).isSome ↔ k ∈ keys added
  getD_eq : ∀ k, (c.counts.find? k).getD 0 = UInt64.ofNat (sum added k)

lemma holds_empty : Holds empty [] :=
  ⟨fun k => by simp [empty, keys, Dictionary.find?, Dictionary.empty], fun _ => rfl⟩

lemma Holds.track {c : Counter} {added : List Addition} (h : Holds c added)
    (impressions : List Impression) (inc : UInt64) :
    Holds (c.track impressions inc) (⟨impressions, inc⟩ :: added) := by
  refine ⟨fun k => ?_, fun k => ?_⟩
  · have hkeys : keys (⟨impressions, inc⟩ :: added) = impressions.map key ++ keys added := rfl
    rw [isSome_find?_track, h.isSome_iff, hkeys, List.mem_append]
  · have hsum : sum (⟨impressions, inc⟩ :: added) k =
        inc.toNat * (impressions.map key).count k + sum added k := rfl
    rw [getD_find?_track, h.getD_eq, hsum, UInt64.ofNat_add, UInt64.add_comm]

lemma Holds.after {c : Counter} {added : List Addition} (h : Holds c added)
    (calls : List CounterCall) : Holds (c.after calls) (calls.foldl pendingAfter added) := by
  induction calls generalizing c added with
  | nil => exact h
  | cons call rest ih =>
    cases call with
    | track impressions inc => exact ih (h.track impressions inc)
    | popAll => exact ih holds_empty

lemma Holds.mem_popAll_iff {c : Counter} {added : List Addition} (h : Holds c added)
    {e : FeatureCount} :
    e ∈ c.popAll.1 ↔ (e.feature, e.timeFrame) ∈ keys added ∧
      e.count = UInt64.ofNat (sum added (e.feature, e.timeFrame)) := by
  have hentry : e ∈ c.popAll.1 ↔ c.counts.find? (e.feature, e.timeFrame) = some e.count := by
    rw [Dictionary.find?_eq_some_iff, popAll, List.mem_map]
    constructor
    · rintro ⟨entry, hm, rfl⟩
      exact hm
    · intro hm
      exact ⟨_, hm, rfl⟩
  rw [hentry, ← h.isSome_iff, ← h.getD_eq]
  cases c.counts.find? (e.feature, e.timeFrame) with
  | none => simp
  | some count => simp [eq_comm]

lemma nodup_popAll (c : Counter) :
    (c.popAll.1.map fun e => (e.feature, e.timeFrame)).Nodup := by
  rw [popAll, List.map_map]
  exact c.counts.nodup

section Hours

variable {added : List Addition} {feature : String} {hour : Int}

lemma key_eq_iff {i : Impression} {time : Int64} :
    key i = (feature, Time.startOfHour time) ↔
      i.feature = feature ∧ Time.InHour (Time.hourOf time) i.time := by
  rw [key, Prod.mk.injEq, Time.startOfHour_eq_iff, Time.inHour_iff]

lemma sum_eq_total (feature : String) (time : Int64) :
    sum added (feature, Time.startOfHour time) = total added feature (Time.hourOf time) := by
  rw [sum, total]
  congr 2
  funext a
  rw [List.count_eq_countP, List.countP_map]
  congr 2
  funext i
  rw [Bool.eq_iff_iff]
  simpa using key_eq_iff

lemma mem_keys_iff {frame : Int64} :
    (feature, frame) ∈ keys added ↔
      ∃ time, Time.startOfHour time = frame ∧ Occurs added feature (Time.hourOf time) := by
  simp only [keys, Occurs, List.mem_flatMap, List.mem_map]
  constructor
  · rintro ⟨a, ha, i, hi, hk⟩
    obtain ⟨rfl, rfl⟩ := Prod.mk.inj hk
    exact ⟨i.time, rfl, a, ha, i, hi, rfl, Time.inHour_iff.mpr rfl⟩
  · rintro ⟨time, rfl, a, ha, i, hi, hk⟩
    exact ⟨a, ha, i, hi, key_eq_iff.mpr hk⟩

end Hours

/-- A drain gives one entry for each flag and hour that was counted since the drain before it, with
the sum of what was counted. The hour is given by its start, which wraps round to the far end of the
range where it lies below it. -/
theorem answers_popAll (calls : List CounterCall) (i : Nat) (hpop : calls[i]? = some .popAll)
    (hlimit : ∀ feature hour, total (pending (calls.take i)) feature hour < UInt64.size) :
    ∃ counts, (empty.answers calls)[i]? = some (some counts) ∧
      (counts.map fun e => (e.feature, e.timeFrame)).Nodup ∧
      ∀ e, e ∈ counts ↔ ∃ hour, Occurs (pending (calls.take i)) e.feature hour ∧
        e.timeFrame.toInt = Time.wrappedStart hour ∧
        e.count.toNat = total (pending (calls.take i)) e.feature hour := by
  have hholds : Holds (empty.after (calls.take i)) (pending (calls.take i)) :=
    holds_empty.after (calls.take i)
  refine ⟨(empty.after (calls.take i)).popAll.1, ?_, nodup_popAll _, fun e => ?_⟩
  · rw [answers_getElem?, hpop]
    rfl
  · rw [hholds.mem_popAll_iff, mem_keys_iff]
    constructor
    · rintro ⟨⟨time, hframe, hoccurs⟩, hcount⟩
      refine ⟨Time.hourOf time, hoccurs, ?_, ?_⟩
      · rw [← hframe, Time.toInt_startOfHour_eq]
      · rw [hcount, ← hframe, sum_eq_total, UInt64.toNat_ofNat_of_lt' (hlimit _ _)]
    · rintro ⟨hour, hoccurs, hframe, hcount⟩
      obtain ⟨a, ha, x, hx, hfeature, hhour⟩ := hoccurs
      obtain rfl := Time.inHour_iff.mp hhour
      have hstart : Time.startOfHour x.time = e.timeFrame :=
        Int64.toInt_inj.mp ((Time.toInt_startOfHour_eq _).trans hframe.symm)
      refine ⟨⟨x.time, hstart, a, ha, x, hx, hfeature, hhour⟩, ?_⟩
      rw [← hstart, sum_eq_total, ← hcount, UInt64.ofNat_toNat]

section Samples

lemma total_le (added : List Addition) (feature : String) (hour : Int) :
    total added feature hour ≤ (added.map fun a => a.inc.toNat * a.impressions.length).sum := by
  induction added with
  | nil => exact Nat.le_refl 0
  | cons a rest ih => exact Nat.add_le_add (Nat.mul_le_mul_left _ List.countP_le_length) ih

theorem answers_popAll_epoch :
    let calls : List CounterCall :=
      [.popAll, .track [sample "a" (-1)] 2, .track [sample "b" (-3600000), sample "a" 0] 3, .popAll]
    ∃ counts, (empty.answers calls)[3]? = some (some counts) ∧
      ⟨"checkout", -3600000, 5⟩ ∈ counts ∧ ⟨"checkout", 0, 3⟩ ∈ counts := by
  intro calls
  have hlimit (feature : String) (hour : Int) :
      total (pending (calls.take 3)) feature hour < UInt64.size :=
    Nat.lt_of_le_of_lt (total_le _ feature hour) (by decide)
  obtain ⟨counts, hcounts, -, hmem⟩ := answers_popAll calls 3 rfl hlimit
  refine ⟨counts, hcounts, (hmem _).mpr ⟨-1, ?_, rfl, rfl⟩, (hmem _).mpr ⟨0, ?_, rfl, rfl⟩⟩
  · exact ⟨_, List.mem_cons_self, sample "b" (-3600000), by decide, rfl, by decide⟩
  · exact ⟨_, List.mem_cons_self, sample "a" 0, by decide, rfl, by decide⟩

theorem timeFrame_not_dvd_of_underflow :
    let calls : List CounterCall := [.track [sample "a" Int64.minValue] 1, .popAll]
    (∀ feature hour, total (pending (calls.take 1)) feature hour < UInt64.size) ∧
      empty.answers calls = [none, some [⟨"checkout", 9223372036851951616, 1⟩]] ∧
      ¬ Time.hour ∣ (9223372036851951616 : Int64).toInt := by
  intro calls
  refine ⟨fun feature hour => ?_, by decide, by decide⟩
  exact Nat.lt_of_le_of_lt (total_le _ feature hour) (by decide)

end Samples

end Counter

end Rollout
