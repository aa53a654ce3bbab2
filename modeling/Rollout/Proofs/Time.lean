import Mathlib.Tactic.Common
import Rollout.Time

/-! The start of an hour is a time again, except for the first hour that times reach into: it starts
below the range, and its start wraps round to the far end. -/

namespace Rollout.Time

section Units

def startOf (unit : Int) (time : Int64) : Int := time.toInt / unit * unit

variable {unit : Int} {s t : Int64}

lemma minValue_eq : Int64.minValue.toInt = -9223372036854775808 := rfl

lemma size_eq : Int64.size = 18446744073709551616 := rfl

lemma startOf_le (hunit : 0 < unit) (t : Int64) : startOf unit t ≤ t.toInt :=
  Int.ediv_mul_le t.toInt (Int.ne_of_gt hunit)

lemma lt_startOf_add (hunit : 0 < unit) (t : Int64) : t.toInt < startOf unit t + unit := by
  have hlt := Int.lt_ediv_add_one_mul_self t.toInt hunit
  rwa [Int.add_mul, Int.one_mul] at hlt

lemma floorTo_eq_ofInt (unit : Int) (t : Int64) : floorTo unit t = Int64.ofInt (startOf unit t) := by
  rw [floorTo, startOf, Int.emod_def, Int.mul_comm (t.toInt / unit)]
  congr 1
  omega

lemma toInt_floorTo (hunit : 0 < unit) (h : Int64.minValue.toInt ≤ startOf unit t) :
    (floorTo unit t).toInt = startOf unit t := by
  have hle : startOf unit t ≤ t.toInt := startOf_le hunit t
  have hlt : t.toInt < 9223372036854775808 := t.toInt_lt
  rw [minValue_eq] at h
  rw [floorTo_eq_ofInt, Int64.toInt_ofInt]
  apply Int.bmod_eq_of_le
  · rw [size_eq]
    omega
  · rw [size_eq]
    omega

lemma startOf_le_startOf_iff (hunit : 0 < unit) :
    startOf unit s ≤ startOf unit t ↔ startOf unit s ≤ t.toInt := by
  rw [startOf, startOf, Int.mul_le_mul_right hunit, Int.le_ediv_iff_mul_le hunit]

lemma startOf_le_startOf_iff_lt (hunit : 0 < unit) :
    startOf unit s ≤ startOf unit t ↔ s.toInt < startOf unit t + unit := by
  rw [startOf, startOf, Int.mul_le_mul_right hunit, ← Int.lt_add_one_iff,
    Int.ediv_lt_iff_lt_mul hunit, Int.add_mul, Int.one_mul]

end Units

def hourOf (time : Int64) : Int := time.toInt / hour

variable {s t : Int64}

lemma hour_eq : hour = 3600000 := rfl

lemma startOfHour_eq_ofInt (t : Int64) : startOfHour t = Int64.ofInt (hourOf t * hour) :=
  floorTo_eq_ofInt hour t

lemma hourOf_mul_le (t : Int64) : hourOf t * hour ≤ t.toInt :=
  startOf_le (by decide) t

lemma lt_hourOf_mul_add (t : Int64) : t.toInt < hourOf t * hour + hour :=
  lt_startOf_add (by decide) t

lemma hourOf_mono (h : s ≤ t) : hourOf s ≤ hourOf t := by
  have hi : s.toInt ≤ t.toInt := Int64.le_iff_toInt_le.mp h
  rw [hourOf, hourOf, hour_eq]
  omega

lemma toInt_startOfHour (h : Int64.minValue.toInt ≤ hourOf t * hour) :
    (startOfHour t).toInt = hourOf t * hour :=
  toInt_floorTo (by decide) h

lemma toInt_startOfHour_of_lt (h : hourOf t * hour < Int64.minValue.toInt) :
    (startOfHour t).toInt = hourOf t * hour + Int64.size := by
  have hge : -9223372036854775808 ≤ t.toInt := t.le_toInt
  have hlt : t.toInt < hourOf t * hour + hour := lt_hourOf_mul_add t
  rw [minValue_eq] at h
  rw [startOfHour_eq_ofInt, Int64.toInt_ofInt, ← Int.add_bmod_right]
  rw [hour_eq] at *
  refine Int.bmod_eq_of_le ?_ ?_
  · rw [size_eq]
    omega
  · rw [size_eq]
    omega

lemma startOfHour_eq_iff : startOfHour s = startOfHour t ↔ hourOf s = hourOf t := by
  refine ⟨fun h => ?_, fun h => by rw [startOfHour_eq_ofInt, startOfHour_eq_ofInt, h]⟩
  have hi : (startOfHour s).toInt = (startOfHour t).toInt := congrArg Int64.toInt h
  -- Starts that wrap round are still told apart, as an hour does not divide the range.
  by_cases hs : hourOf s * hour < Int64.minValue.toInt <;>
    by_cases ht : hourOf t * hour < Int64.minValue.toInt
  · rw [toInt_startOfHour_of_lt hs, toInt_startOfHour_of_lt ht, hour_eq] at hi
    omega
  · rw [toInt_startOfHour_of_lt hs, toInt_startOfHour (Int.not_lt.mp ht), hour_eq, size_eq] at hi
    omega
  · rw [toInt_startOfHour (Int.not_lt.mp hs), toInt_startOfHour_of_lt ht, hour_eq, size_eq] at hi
    omega
  · rw [toInt_startOfHour (Int.not_lt.mp hs), toInt_startOfHour (Int.not_lt.mp ht), hour_eq] at hi
    omega

lemma lt_startOfHour_iff (h : hourOf s ≤ hourOf t) :
    s < startOfHour t ↔ hourOf s ≠ hourOf t ∨ hourOf t * hour < Int64.minValue.toInt := by
  have hs : s.toInt < hourOf s * hour + hour := lt_hourOf_mul_add s
  have hs' : hourOf s * hour ≤ s.toInt := hourOf_mul_le s
  have hge : -9223372036854775808 ≤ t.toInt := t.le_toInt
  have ht : t.toInt < hourOf t * hour + hour := lt_hourOf_mul_add t
  rw [Int64.lt_iff_toInt_lt]
  by_cases hw : hourOf t * hour < Int64.minValue.toInt
  · rw [toInt_startOfHour_of_lt hw, size_eq]
    rw [hour_eq, minValue_eq] at *
    omega
  · rw [toInt_startOfHour (Int.not_lt.mp hw)]
    rw [hour_eq, minValue_eq] at *
    omega

end Rollout.Time
