import Mathlib.Data.Nat.Bitwise
import Rollout.Impression.BloomFilter

namespace Rollout.BloomFilter

lemma toNat_mask (bit : UInt64) : (mask bit).toNat = 2 ^ (bit.toNat % 64) := by
  have hlt : bit.toNat % 64 < 64 := Nat.mod_lt _ (by decide)
  have hand : (bit &&& 63).toNat = bit.toNat % 64 := by
    rw [UInt64.toNat_and]
    exact Nat.and_two_pow_sub_one_eq_mod bit.toNat 6
  have hpow : 2 ^ (bit.toNat % 64) < 2 ^ 64 := Nat.pow_lt_pow_right (by decide) hlt
  rw [mask, UInt64.toNat_shiftLeft, hand, Nat.mod_mod, Nat.shiftLeft_eq]
  change 1 * _ % _ = _
  rw [Nat.one_mul, Nat.mod_eq_of_lt hpow]

lemma and_mask_ne_zero (word bit : UInt64) :
    (word &&& mask bit != 0) = word.toNat.testBit (bit.toNat % 64) := by
  have hzero : word &&& mask bit = 0 ↔ word.toNat.testBit (bit.toNat % 64) = false := by
    rw [← UInt64.toNat_inj, UInt64.toNat_and, toNat_mask, Nat.and_two_pow]
    cases word.toNat.testBit (bit.toNat % 64) <;> simp
  cases h : word.toNat.testBit (bit.toNat % 64) with
  | false => simp [hzero.mpr h]
  | true =>
    have hne : word &&& mask bit ≠ 0 := fun hz => by simp [hzero.mp hz] at h
    simpa using hne

lemma testBit_or_mask (word bit other : UInt64) :
    (word ||| mask bit).toNat.testBit (other.toNat % 64) =
      (word.toNat.testBit (other.toNat % 64) || decide (bit.toNat % 64 = other.toNat % 64)) := by
  rw [UInt64.toNat_or, toNat_mask, Nat.testBit_or, Nat.testBit_two_pow]

lemma wordIndex_eq (bit : UInt64) : wordIndex bit = bit.toNat / 64 := by
  rw [wordIndex, UInt64.toNat_shiftRight]
  exact Nat.shiftRight_eq_div_pow bit.toNat 6

lemma eq_iff_wordIndex (bit other : UInt64) :
    bit = other ↔ wordIndex bit = wordIndex other ∧ bit.toNat % 64 = other.toNat % 64 := by
  rw [← UInt64.toNat_inj, wordIndex_eq, wordIndex_eq]
  omega

lemma hasBit_setBit {words : Array UInt64} {bit : UInt64} (h : wordIndex bit < words.size)
    (other : UInt64) :
    hasBit (setBit words bit) other = (hasBit words other || decide (bit = other)) := by
  rw [hasBit, hasBit, setBit, Array.getElem?_modify]
  by_cases hi : wordIndex bit = wordIndex other
  · have heq : decide (bit = other) = decide (bit.toNat % 64 = other.toNat % 64) := by
      rw [decide_eq_decide, eq_iff_wordIndex, and_iff_right hi]
    rw [if_pos hi, ← hi, Array.getElem?_eq_getElem h, heq]
    simp only [Option.map_some, and_mask_ne_zero, testBit_or_mask]
  · have hne : bit ≠ other := fun heq => hi (congrArg wordIndex heq)
    rw [if_neg hi, decide_eq_false hne, Bool.or_false]

lemma hasBit_foldl_setBit {words : Array UInt64} {bits : List UInt64}
    (h : ∀ bit ∈ bits, wordIndex bit < words.size) (other : UInt64) :
    hasBit (bits.foldl setBit words) other = (hasBit words other || decide (other ∈ bits)) := by
  induction bits generalizing words with
  | nil => simp
  | cons bit rest ih =>
    obtain ⟨hb, hr⟩ := List.forall_mem_cons.mp h
    have hr' : ∀ b ∈ rest, wordIndex b < (setBit words bit).size := by
      rw [size_setBit]
      exact hr
    rw [List.foldl_cons, ih hr', hasBit_setBit hb, Bool.or_assoc]
    simp [List.mem_cons, eq_comm]

variable (f : BloomFilter) (item other : String)

lemma wordIndex_lt_size {bit : UInt64} (h : bit ∈ f.positions item) :
    wordIndex bit < f.words.size := by
  obtain ⟨i, -, rfl⟩ := List.mem_map.mp h
  have hlt := UInt64.mod_lt ((Hash.murmur128 (Text.bytes item) 0).low +
    (i + 1).toUInt64 * (Hash.murmur128 (Text.bytes item) 0).high) f.numBits_pos
  rw [UInt64.lt_iff_toNat_lt] at hlt
  rw [f.size_words, wordsFor, wordIndex_eq]
  omega

lemma contains_eq_true_iff :
    f.contains item = true ↔ ∀ bit ∈ f.positions item, hasBit f.words bit = true := by
  rw [contains, List.all_eq_true]

lemma hasBit_add (bit : UInt64) :
    hasBit (f.add item).words bit = (hasBit f.words bit || decide (bit ∈ f.positions item)) :=
  hasBit_foldl_setBit (fun _ h => f.wordIndex_lt_size item h) bit

lemma positions_add : (f.add item).positions other = f.positions other := rfl

lemma contains_add_self : (f.add item).contains item = true := by
  rw [contains_eq_true_iff, positions_add]
  intro bit hb
  rw [hasBit_add, decide_eq_true hb, Bool.or_true]

variable {f other} in
lemma contains_add_of_contains (h : f.contains other = true) :
    (f.add item).contains other = true := by
  rw [contains_eq_true_iff] at h ⊢
  intro bit hb
  rw [hasBit_add, h bit hb, Bool.true_or]

lemma clear_empty (numBits : UInt64) (numHashes : UInt32) (maxElements : Nat) (errorRate : Float) :
    (empty numBits numHashes maxElements errorRate).clear =
      empty numBits numHashes maxElements errorRate := by
  rw [empty]
  split <;> rfl

lemma hasBit_noBits (numBits bit : UInt64) : hasBit (noBits numBits) bit = false := by
  rw [hasBit, noBits, Array.getElem?_replicate]
  by_cases h : wordIndex bit < wordsFor numBits
  · simp [h]
  · simp [h]

-- without hashes every item would be contained
lemma contains_clear (h : 0 < f.numHashes) : f.clear.contains item = false := by
  have hpos : 0 < f.clear.numHashes.toNat := UInt32.lt_iff_toNat_lt.mp h
  have hne : f.clear.positions item ≠ [] := by
    simpa [positions] using Nat.ne_of_gt hpos
  rw [contains, List.all_eq_false]
  obtain ⟨bit, hb⟩ := List.exists_mem_of_ne_nil _ hne
  exact ⟨bit, hb, Bool.eq_false_iff.mp (hasBit_noBits f.numBits bit)⟩

end Rollout.BloomFilter
