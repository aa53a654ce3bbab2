import Mathlib.Algebra.GroupWithZero.Nat
import Mathlib.Order.Interval.Finset.Nat
import Mathlib.Tactic.MkIffOfInductiveProp
import Rollout.Bucketing

/-! The partitions of a condition are laid end to end over the buckets from 1 to 100, and a key gets
the treatment of the partition over its bucket. -/

namespace Rollout.Bucketing

variable {partitions : List Partition} {p q : Partition} {b i j : Nat}

def reach (partitions : List Partition) (i : Nat) : Nat :=
  ((partitions.take i).map fun p => p.size.toNat).sum

@[mk_iff]
structure HoldsAt (partitions : List Partition) (i : Nat) (p : Partition) (b : Nat) : Prop where
  found : partitions[i]? = some p
  after : reach partitions i < b
  within : b ≤ reach partitions (i + 1)

instance : Decidable (HoldsAt partitions i p b) :=
  decidable_of_iff _ (holdsAt_iff partitions i p b).symm

@[simp] lemma reach_zero (partitions : List Partition) : reach partitions 0 = 0 := rfl

@[simp] lemma reach_cons_succ (p : Partition) (partitions : List Partition) (i : Nat) :
    reach (p :: partitions) (i + 1) = p.size.toNat + reach partitions i := rfl

lemma reach_succ (h : partitions[i]? = some p) :
    reach partitions (i + 1) = reach partitions i + p.size.toNat := by
  simp [reach, List.take_add_one, h]

lemma reach_mono (h : i ≤ j) : reach partitions i ≤ reach partitions j := by
  refine monotone_nat_of_le_succ (fun k => ?_) h
  simp [reach, List.take_add_one]

lemma reach_le_length (i : Nat) : reach partitions i ≤ reach partitions partitions.length := by
  rcases le_total i partitions.length with h | h
  · exact reach_mono h
  · rw [reach, reach, List.take_of_length_le h, List.take_length]

lemma HoldsAt.unique (hi : HoldsAt partitions i p b) (hj : HoldsAt partitions j q b) : i = j := by
  have hij : reach partitions i < reach partitions (j + 1) := hi.after.trans_le hj.within
  have hji : reach partitions j < reach partitions (i + 1) := hj.after.trans_le hi.within
  have hle : i ≤ j := not_lt.mp fun h => hij.not_ge (reach_mono h)
  exact hle.antisymm (not_lt.mp fun h => hji.not_ge (reach_mono h))

lemma HoldsAt.size_ne_zero (h : HoldsAt partitions i p b) : p.size ≠ 0 := by
  intro hsize
  have hreach := reach_succ h.found
  rw [hsize] at hreach
  exact (h.after.trans_le h.within).ne' hreach

lemma exists_holdsAt (hb : 1 ≤ b) (h : b ≤ reach partitions partitions.length) :
    ∃ i p, HoldsAt partitions i p b := by
  -- The first place up to which the partitions reach the bucket is the one that holds it.
  have hexists : ∃ j, b ≤ reach partitions (j + 1) :=
    ⟨partitions.length, h.trans (reach_mono (Nat.le_succ _))⟩
  have hwithin := Nat.find_spec hexists
  have hafter : reach partitions (Nat.find hexists) < b := by
    cases hfind : Nat.find hexists with
    | zero => exact hb
    | succ j => exact not_le.mp (Nat.find_min hexists (hfind ▸ Nat.lt_succ_self j))
  have hlt : Nat.find hexists < partitions.length :=
    not_le.mp fun hle => (hafter.trans_le h).not_ge (reach_mono hle)
  exact ⟨_, _, List.getElem?_eq_getElem hlt, hafter, hwithin⟩

lemma card_holdsAt (h : partitions[i]? = some p) :
    ((Finset.Icc 1 100).filter (HoldsAt partitions i p)).card =
      min 100 (reach partitions (i + 1)) - min 100 (reach partitions i) := by
  have hbuckets : (Finset.Icc 1 100).filter (HoldsAt partitions i p) =
      Finset.Ioc (min 100 (reach partitions i)) (min 100 (reach partitions (i + 1))) := by
    ext b
    rw [Finset.mem_filter, Finset.mem_Icc, Finset.mem_Ioc, holdsAt_iff, and_iff_right h]
    omega
  rw [hbuckets, Nat.card_Ioc]

lemma toNat_saturatingAdd (a b : UInt32) :
    (saturatingAdd a b).toNat = min (a.toNat + b.toNat) (UInt32.size - 1) := by
  have hsize : UInt32.size = 4294967296 := rfl
  rw [saturatingAdd]
  split
  next h =>
    rw [UInt32.toNat_add, Nat.mod_eq_of_lt h]
    omega
  next h =>
    change 4294967295 = _
    omega

lemma holder?_eq_some_iff_from {covered : UInt32} {before : Nat} (hb : b ≤ 100)
    (hbefore : before < b) (hcovered : covered.toNat = min before (UInt32.size - 1)) :
    holder? b covered partitions = some p ↔
      ∃ i, partitions[i]? = some p ∧ before + reach partitions i < b ∧
        b ≤ before + reach partitions (i + 1) := by
  -- By induction with the sum before the list. It stops at the greatest word, beyond every bucket.
  induction partitions generalizing covered before with
  | nil => simp [holder?]
  | cons q rest ih =>
    have hsize : UInt32.size = 4294967296 := rfl
    have hsum := toNat_saturatingAdd covered q.size
    rw [hcovered] at hsum
    rw [holder?]
    split
    next hle =>
      have hwithin : b ≤ before + q.size.toNat := by omega
      constructor
      · rintro ⟨⟩
        exact ⟨0, rfl, by simpa using hbefore, by simpa using hwithin⟩
      · rintro ⟨i, hp, hafter, -⟩
        cases i with
        | zero => exact hp
        | succ i =>
          rw [reach_cons_succ] at hafter
          omega
    next hgt =>
      have hafter : before + q.size.toNat < b := by omega
      rw [ih hafter (by omega)]
      constructor
      · rintro ⟨i, hp, hi⟩
        exact ⟨i + 1, hp, by simpa only [reach_cons_succ, Nat.add_assoc] using hi⟩
      · rintro ⟨i, hp, hi⟩
        cases i with
        | zero => exact absurd hi.2 (by simpa using hafter)
        | succ i => exact ⟨i, hp, by simpa only [reach_cons_succ, Nat.add_assoc] using hi⟩

lemma holder?_eq_some_iff (hb : 1 ≤ b) (hb' : b ≤ 100) :
    holder? b 0 partitions = some p ↔ ∃ i, HoldsAt partitions i p b := by
  have hcovered : (0 : UInt32).toNat = min 0 (UInt32.size - 1) := rfl
  simp only [holder?_eq_some_iff_from hb' hb hcovered, Nat.zero_add, holdsAt_iff]

lemma treatment_eq_holder (key : String) (seed : Int32) (algo : HashAlgorithm)
    (partitions : List Partition) :
    treatment key seed algo partitions =
      match holder? (bucket key seed algo) 0 partitions with
      | some p => p.treatment
      | none => controlTreatment := by
  match partitions with
  | [] => rfl
  | [single] =>
    rw [treatment]
    split
    next hfull =>
      have hholder : holder? (bucket key seed algo) 0 [single] = some single := by
        refine (holder?_eq_some_iff (one_le_bucket key seed algo) (bucket_le key seed algo)).mpr ?_
        refine ⟨0, rfl, one_le_bucket key seed algo, (bucket_le key seed algo).trans ?_⟩
        simpa using UInt32.le_iff_toNat_le.mp hfull
      rw [hholder]
    next => rfl
  | _ :: _ :: _ => rfl

/-- Of the buckets under a partition, those from 1 to 100 are the ones that it receives. -/
theorem treatment_by_bucket (key : String) (seed : Int32) (algo : HashAlgorithm)
    (partitions : List Partition) :
    (1 ≤ bucket key seed algo ∧ bucket key seed algo ≤ 100) ∧
      (∀ i p, HoldsAt partitions i p (bucket key seed algo) →
        treatment key seed algo partitions = p.treatment) ∧
      (reach partitions partitions.length < bucket key seed algo →
        treatment key seed algo partitions = controlTreatment) ∧
      (∀ b, 1 ≤ b → b ≤ 100 →
        (b ≤ reach partitions partitions.length → ∃! i, ∃ p, HoldsAt partitions i p b) ∧
          ∀ p, holder? b 0 partitions = some p ↔ ∃ i, HoldsAt partitions i p b) ∧
      ∀ i p, partitions[i]? = some p →
        ((Finset.Icc 1 100).filter (HoldsAt partitions i p)).card =
            min 100 (reach partitions (i + 1)) - min 100 (reach partitions i) ∧
          (p.size = 0 → ∀ b, ¬ HoldsAt partitions i p b) := by
  have hone := one_le_bucket key seed algo
  have hle := bucket_le key seed algo
  rw [treatment_eq_holder]
  refine ⟨⟨hone, hle⟩, fun i p h => ?_, fun h => ?_, fun b hb hb' => ⟨fun h => ?_, fun p => ?_⟩,
    fun i p hp => ⟨card_holdsAt hp, fun hsize b h => h.size_ne_zero hsize⟩⟩
  · rw [(holder?_eq_some_iff hone hle).mpr ⟨i, h⟩]
  · cases hholder : holder? (bucket key seed algo) 0 partitions with
    | none => rfl
    | some p =>
      obtain ⟨i, hi⟩ := (holder?_eq_some_iff hone hle).mp hholder
      exact absurd (hi.within.trans (reach_le_length (i + 1))) h.not_ge
  · obtain ⟨i, p, hi⟩ := exists_holdsAt hb h
    exact ⟨i, ⟨p, hi⟩, fun j ⟨q, hj⟩ => hj.unique hi⟩
  · exact holder?_eq_some_iff hb hb'

theorem treatment_by_bucket_oversized :
    treatment "user-1" 1234 .legacy
      [⟨"small", 10⟩, ⟨"none", 0⟩, ⟨"huge", 0xFFFFFFFF⟩, ⟨"more", 0xFFFFFFFF⟩] = "huge" :=
  (treatment_by_bucket "user-1" 1234 .legacy
    [⟨"small", 10⟩, ⟨"none", 0⟩, ⟨"huge", 0xFFFFFFFF⟩, ⟨"more", 0xFFFFFFFF⟩]).2.1 2
      ⟨"huge", 0xFFFFFFFF⟩ (by decide +kernel)

end Rollout.Bucketing
