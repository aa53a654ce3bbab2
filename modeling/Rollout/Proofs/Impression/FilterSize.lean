import Mathlib
import Rollout.Impression.BloomFilter

namespace Rollout.BloomFilter

open Float.Model

lemma mantissa_shiftRight (em : UnpackedFloat.ExtendedMantissa) (n : Nat) :
    (em >>> n).mantissa = em.mantissa / 2 ^ n := by
  induction n with
  | zero => exact (Nat.div_one _).symm
  | succ n ih =>
    change (em >>> n).mantissa / 2 = _
    rw [ih, Nat.div_div_eq_div_mul, Nat.pow_succ]

lemma one_le_roundToInt {m : Nat} {e : Int} (hm : 2 ^ 52 ≤ m) (he : -52 ≤ e) :
    1 ≤ UnpackedFloat.roundToInt .positive m e := by
  let up := (e - 0).toNat
  let down := (0 - (e - up)).toNat
  have hround : UnpackedFloat.roundToInt .positive m e = ((m <<< up / 2 ^ down : Nat) : Int) :=
    congrArg Int.ofNat (mantissa_shiftRight ⟨m <<< up, false, false⟩ down)
  have hdown : 2 ^ down ≤ 2 ^ 52 := Nat.pow_le_pow_right (by decide) (by omega)
  have hup : m ≤ m <<< up := by
    rw [Nat.shiftLeft_eq]
    exact Nat.le_mul_of_pos_right m (Nat.two_pow_pos up)
  have hone : 1 ≤ m <<< up / 2 ^ down := by
    rw [Nat.one_le_div_iff (Nat.two_pow_pos down)]
    omega
  omega

lemma le_mantissa_or_exponent_eq {b : BitVec 64} {s : UnpackedFloat.Sign} {m : Nat} {e : Int}
    {h : 0 < m} (hb : UnpackedFloat.unpack Format.binary64 b = .finite s m e h) :
    2 ^ 52 ≤ m ∨ e = -1074 := by
  -- Only the least exponent leaves the leading bit of the significand unset.
  rw [UnpackedFloat.unpack] at hb
  split at hb
  · split at hb <;> cases hb
  · split at hb
    · rename_i hzero
      split at hb
      · cases hb
      · right
        rw [hzero] at hb
        cases hb
        rfl
    · left
      cases hb
      rw [BitVec.toNat_append]
      exact Nat.left_le_or

lemma unpack_one :
    (1.0 : Float).toModel.unpack = .finite .positive (2 ^ 52) (-52) (by decide) := rfl

lemma one_le_toInt_of_lt {x : UnpackedFloat} {b : BitVec 64} {limit : Int}
    (hb : UnpackedFloat.unpack Format.binary64 b = x) (hl : 1 ≤ limit)
    (h : UnpackedFloat.compare (.finite .positive (2 ^ 52) (-52) (by decide)) x = some .lt) :
    1 ≤ x.toInt 0 limit := by
  cases x with
  | notANumber => simp [UnpackedFloat.compare] at h
  | zero s => cases s <;> simp [UnpackedFloat.compare] at h
  | infinity s =>
    cases s with
    | negative => simp [UnpackedFloat.compare] at h
    | positive => exact hl
  | finite s m e hm =>
    cases s with
    | negative => simp [UnpackedFloat.compare] at h
    | positive =>
      simp only [UnpackedFloat.compare, Option.some.injEq, Ordering.then_eq_lt, Nat.compare_eq_lt,
        Int.compare_eq_lt, Int.compare_eq_eq] at h
      have hleading := le_mantissa_or_exponent_eq hb
      exact one_le_roundToInt (by omega) (by omega)

lemma one_le_ofNatClamp {n : Nat} (h : 1 ≤ n) : 1 ≤ UInt32.ofNatClamp n := by
  rw [UInt32.ofNatClamp]
  split
  · rw [UInt32.le_iff_toNat_le]
    simpa using h
  · decide

lemma one_le_toUInt32 {x : Float} (h : 1.0 < x) : 1 ≤ x.toUInt32 := by
  have hc : UnpackedFloat.compare (1.0 : Float).toModel.unpack x.toModel.unpack = some .lt :=
    eq_of_beq (of_decide_eq_true h)
  have hone : 1 ≤ x.toModel.unpack.toInt 0 (UInt32.size - 1) :=
    one_le_toInt_of_lt rfl (by decide) (unpack_one ▸ hc)
  exact one_le_ofNatClamp (by omega)

lemma hashesFor_pos (maxElements : Nat) (numBits : UInt64) : 0 < hashesFor maxElements numBits := by
  rw [hashesFor]
  split
  · rename_i h
    exact UInt32.lt_of_lt_of_le (by decide) (one_le_toUInt32 h)
  · decide

section Empty

variable {numBits : UInt64} {numHashes : UInt32} {maxElements : Nat} {errorRate : Float}

lemma numBits_empty (h : 0 < numBits) :
    (empty numBits numHashes maxElements errorRate).numBits = numBits := by
  rw [empty, dif_pos h]

@[simp] lemma numHashes_empty :
    (empty numBits numHashes maxElements errorRate).numHashes = numHashes := by
  rw [empty]
  split <;> rfl

lemma words_empty : (empty numBits numHashes maxElements errorRate).words =
    noBits (empty numBits numHashes maxElements errorRate).numBits := by
  rw [empty]
  split <;> rfl

lemma of_new {f : BloomFilter} (h : new maxElements errorRate = .ok f) :
    f = empty (bitsFor maxElements errorRate)
      (hashesFor maxElements (bitsFor maxElements errorRate)) maxElements errorRate := by
  rw [new] at h
  split at h
  · cases h
  · split at h
    · exact (Except.ok.inj h).symm
    · cases h

end Empty

end Rollout.BloomFilter
