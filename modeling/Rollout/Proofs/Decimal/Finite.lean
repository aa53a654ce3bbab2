import Mathlib
import Rollout.Decimal.Reading

namespace Rollout.Decimal

section Bits

open Float.Model UnpackedFloat

variable {u : UnpackedFloat} {b : BitVec 64} {s : Sign} {m : Nat} {e : Int} {hm : 0 < m}

-- The exponent field of a double that is not finite has all its bits set.
lemma isFinite_unpack_iff : (UnpackedFloat.unpack .binary64 b).isFinite = true ↔
    @unpackExponent .binary64 b ≠ -1#_ := by
  rw [UnpackedFloat.unpack]
  split
  · rename_i htop
    refine iff_of_false ?_ (not_not_intro htop)
    split <;> simp [UnpackedFloat.isFinite]
  · rename_i htop
    refine iff_of_true ?_ htop
    split
    · split <;> rfl
    · rfl

lemma exponent_lt_of_unpack (h : UnpackedFloat.unpack .binary64 b = .finite s m e hm) :
    e + 1075 < 2047 := by
  have htop : @unpackExponent .binary64 b ≠ -1#_ := isFinite_unpack_iff.mp (h ▸ rfl)
  have hfield : (@unpackExponent .binary64 b).toNat < 2047 :=
    Nat.lt_of_le_of_ne (Nat.le_of_lt_succ (@unpackExponent .binary64 b).isLt) fun ht =>
      htop (BitVec.eq_of_toNat_eq ht)
  rw [UnpackedFloat.unpack, if_neg htop] at h
  split at h
  · rename_i hzero
    split at h
    · cases h
    · rw [hzero] at h
      cases h
      decide
  · have he : ((@unpackExponent .binary64 b).toNat : Int) - 1075 = e :=
      (UnpackedFloat.finite.inj h).2.2
    omega

lemma isFinite_unpack_pack (h : ∀ s m e hm, u = .finite s m e hm → e + 1075 < 2047) :
    (UnpackedFloat.unpack .binary64 (UnpackedFloat.pack .binary64 u)).isFinite = u.isFinite := by
  cases u with
  | notANumber => rfl
  | infinity s => cases s <;> rfl
  | zero s => cases s <;> rfl
  | finite s m e hm =>
    have he := h s m e hm rfl
    have hroom : ¬ 2 ^ Format.binary64.exponentBits ≤ (e + Format.binary64.exponentBias +
        Format.binary64.mantissaBitsWithoutImplicit).toNat + 1 := by
      change ¬ 2048 ≤ (e + 1023 + 52).toNat + 1
      omega
    rw [UnpackedFloat.isFinite, isFinite_unpack_iff]
    simp only [UnpackedFloat.pack, if_neg hroom]
    split
    · rw [unpackExponent_packComponents]
      intro htop
      have hfield : (e + 1023 + 52).toNat % 2048 = 2047 := congrArg BitVec.toNat htop
      omega
    · rw [unpackExponent_packComponents]
      decide

lemma isFinite_neg (x : Float) : (-x).isFinite = x.isFinite := by
  have hneg : x.toModel.unpack.neg.isFinite = x.toModel.unpack.isFinite := by
    cases x.toModel.unpack <;> rfl
  refine (isFinite_unpack_pack fun s m e hm h => ?_).trans hneg
  cases hx : x.toModel.unpack with
  | finite s' m' e' hm' =>
    rw [hx] at h
    cases h
    exact exponent_lt_of_unpack hx
  | _ =>
    rw [hx] at h
    cases h

lemma isFinite_ofBits {bits : UInt64} (h : bits.toNat < 0x7FF0000000000000) :
    (Float.ofBits bits).isFinite = true := by
  refine (isFinite_unpack_pack fun s m e hm h => exponent_lt_of_unpack h).trans ?_
  rw [isFinite_unpack_iff]
  intro htop
  have hfield : bits.toNat >>> 52 % 2048 = 2047 := congrArg BitVec.toNat htop
  rw [Nat.shiftRight_eq_div_pow] at hfield
  omega

end Bits

lemma roundQuotient_le (num den : Nat) : roundQuotient num den ≤ num / den + 1 := by
  simp only [roundQuotient]
  split <;> omega

lemma inUnits_quotient_lt {num : Nat} {e : Int} (he : (num.log2 : Int) < e + 54) :
    (inUnits num 1 e).1 / (inUnits num 1 e).2 < 2 ^ 54 := by
  have hnum : num < 2 ^ (num.log2 + 1) := Nat.lt_log2_self
  rw [inUnits]
  split
  · rw [Nat.one_mul]
    refine Nat.div_lt_of_lt_mul ?_
    calc num < 2 ^ (num.log2 + 1) := hnum
      _ ≤ 2 ^ (e.toNat + 54) := Nat.pow_le_pow_right (by decide) (by omega)
      _ = Nat.pow 2 e.toNat * 2 ^ 54 := Nat.pow_add 2 e.toNat 54
  · rw [Nat.div_one]
    calc num * Nat.pow 2 (-e).toNat
        < 2 ^ (num.log2 + 1) * Nat.pow 2 (-e).toNat :=
          Nat.mul_lt_mul_of_pos_right hnum (Nat.two_pow_pos _)
      _ = 2 ^ (num.log2 + 1 + (-e).toNat) := (Nat.pow_add 2 _ _).symm
      _ ≤ 2 ^ 54 := Nat.pow_le_pow_right (by decide) (by omega)

lemma lastPlace_bounds (num : Nat) :
    (num.log2 : Int) < lastPlace num 1 + 54 ∧
      lastPlace num 1 ≤ max (num.log2 - 52 : Int) (-1074) := by
  have hone : Nat.log2 1 = 0 := by decide
  simp only [lastPlace, hone]
  split <;> omega

lemma isFinite_nearest {num : Nat} (h : num < 2 ^ 64) : (nearest num 1).isFinite = true := by
  refine isFinite_ofBits ?_
  obtain ⟨hlow, hhigh⟩ := lastPlace_bounds num
  rcases hunits : inUnits num 1 (lastPlace num 1) with ⟨n, d⟩
  have hquotient : n / d < 2 ^ 54 := by
    simpa only [hunits] using inUnits_quotient_lt hlow
  simp only [nearestBits, hunits]
  split
  · decide
  · rename_i hnum
    have hlog : num.log2 < 64 := (Nat.log2_lt hnum).mpr h
    have hround := roundQuotient_le n d
    -- The exponent field stays below 1086, which leaves room for the significand to carry into it.
    have hbits : (lastPlace num 1 + 1074).toNat * fractionSize + roundQuotient n d <
        0x7FF0000000000000 := by
      rw [fractionSize]
      omega
    rw [if_pos hbits, Nat.toUInt64_eq, UInt64.toNat_ofNat_of_lt' (hbits.trans (by decide))]
    exact hbits

lemma isFinite_nearestDecimal {digits : Nat} (h : digits < 2 ^ 64) :
    (nearestDecimal digits 0).isFinite = true := by
  rw [nearestDecimal]
  split
  · rfl
  · rw [if_pos le_rfl, if_neg (by decide)]
    exact isFinite_nearest (by simpa using h)

variable {s : List Char}

lemma isAlpha_of_isDigit {c : Char} (h : c.isDigit = true) : c.isAlpha = false := by
  have hrange : 48 ≤ c.toNat ∧ c.toNat ≤ 57 := by
    simpa [Char.isDigit, UInt32.le_iff_toNat_le] using h
  have hupper : ¬ (65 ≤ c.toNat ∧ c.toNat ≤ 90) := by omega
  have hlower : ¬ (97 ≤ c.toNat ∧ c.toNat ≤ 122) := by omega
  simpa [Char.isAlpha, Char.isUpper, Char.isLower, UInt32.le_iff_toNat_le] using
    And.intro hupper hlower

lemma named?_of_isNumeral (h : Text.isNumeral s = true) : named? s = none := by
  rw [Text.isNumeral, Bool.and_eq_true, List.all_eq_true] at h
  have hname : ∀ c ∈ (String.ofList (s.map Char.toLower)).toList, c.isAlpha = false := by
    intro c hc
    rw [String.toList_ofList] at hc
    obtain ⟨digit, hdigit, rfl⟩ := List.mem_map.mp hc
    rw [Char.isAlpha_toLower_eq_isAlpha, isAlpha_of_isDigit (h.2 digit hdigit)]
  have hne : ∀ name : String, name.toList.any Char.isAlpha = true →
      String.ofList (s.map Char.toLower) ≠ name := by
    rintro name halpha rfl
    obtain ⟨c, hc, hletter⟩ := List.any_eq_true.mp halpha
    exact absurd hletter (Bool.eq_false_iff.mp (hname c hc))
  rw [named?, if_neg (not_or_intro (hne _ (by decide)) (hne _ (by decide))),
    if_neg (hne _ (by decide))]

lemma finite?_of_isNumeral (h : Text.isNumeral s = true) :
    finite? s = some (nearestDecimal (Text.ofDigits s) 0) := by
  rw [Text.isNumeral, Bool.and_eq_true, List.all_eq_true, Bool.not_eq_true'] at h
  have htake : s.takeWhile Char.isDigit = s := List.takeWhile_eq_self_iff.mpr h.2
  have hdrop : s.dropWhile Char.isDigit = [] := List.dropWhile_eq_nil_iff.mpr h.2
  have hmantissa : mantissa? s = some (s, [], []) := by
    simp [mantissa?, htake, hdrop, h.1]
  rw [finite?, hmantissa]
  simp [exponentPart?]

theorem exists_readFloat? {n : Int64} (h : readInt64? s = some n) :
    ∃ x, readFloat? s = some x ∧ x.isFinite = true := by
  rcases hs : signed s with ⟨negative, digits⟩
  simp only [readInt64?, hs] at h
  obtain ⟨⟨hnumeral, hlow, hhigh⟩, -⟩ := Option.ite_none_right_eq_some.mp h
  have hvalue : Text.ofDigits digits < 2 ^ 64 := by
    have hmin : Int64.minValue.toInt = -2 ^ 63 := rfl
    have hmax : Int64.maxValue.toInt = 2 ^ 63 - 1 := rfl
    split_ifs at hlow hhigh <;> omega
  have hfinite := isFinite_nearestDecimal hvalue
  rw [readFloat?, hs]
  simp only [named?_of_isNumeral hnumeral, finite?_of_isNumeral hnumeral, Option.none_or,
    Option.map_some]
  cases negative with
  | true => exact ⟨_, rfl, by rwa [if_pos rfl, isFinite_neg]⟩
  | false => exact ⟨_, rfl, by rwa [if_neg (by decide)]⟩

end Rollout.Decimal
