import Rollout.Proofs.Hash.Indexed
import Rollout.Proofs.Hash.Lossless

namespace Rollout.Hash

open Function (Injective)

namespace Murmur32

lemma injective_of_toBitVec {f : UInt32 → UInt32} {g : BitVec 32 → BitVec 32}
    (h : ∀ x, (f x).toBitVec = g x.toBitVec) (hg : Injective g) : Injective f := by
  intro x y hxy
  have hbits : g x.toBitVec = g y.toBitVec := by rw [← h, ← h, hxy]
  exact UInt32.toBitVec_inj.mp (hg hbits)

lemma scramble_injective : Injective scramble := by
  apply injective_of_toBitVec toBitVec_scramble
  have hfirst : Injective fun k : BitVec 32 => k * 0xcc9e2d51 := mul_injective (by decide)
  have hrotate : Injective fun k : BitVec 32 => k.rotateLeft 15 := rotateLeft_injective (by decide)
  have hsecond : Injective fun k : BitVec 32 => k * 0x1b873593 := mul_injective (by decide)
  exact hsecond.comp (hrotate.comp hfirst)

lemma avalanche_injective : Injective avalanche := by
  apply injective_of_toBitVec toBitVec_avalanche
  have hhigh : Injective fun h : BitVec 32 => h ^^^ h >>> 16 := xor_ushiftRight_injective (by decide)
  have hlow : Injective fun h : BitVec 32 => h ^^^ h >>> 13 := xor_ushiftRight_injective (by decide)
  have hfirst : Injective fun h : BitVec 32 => h * 0x85ebca6b := mul_injective (by decide)
  have hsecond : Injective fun h : BitVec 32 => h * 0xc2b2ae35 := mul_injective (by decide)
  exact hhigh.comp (hsecond.comp (hlow.comp (hfirst.comp hhigh)))

lemma xor_of_absorb_eq {h h' k k' : UInt32} (heq : absorb h k = absorb h' k') :
    h ^^^ scramble k = h' ^^^ scramble k' := by
  have hbits := congrArg UInt32.toBitVec heq
  rw [toBitVec_absorb, toBitVec_absorb, BitVec.add_left_inj] at hbits
  have hrotate : Injective fun x : BitVec 32 => x.rotateLeft 13 := rotateLeft_injective (by decide)
  have hfive : Injective fun x : BitVec 32 => x * 5 := mul_injective (by decide)
  rw [← UInt32.toBitVec_inj, UInt32.toBitVec_xor, UInt32.toBitVec_xor, toBitVec_scramble,
    toBitVec_scramble]
  exact hrotate (hfive hbits)

lemma word_injective {a b : List UInt8} (hlen : a.length = b.length) (hle : a.length ≤ 4)
    (h : word a = word b) : a = b := by
  have hpack := congrArg UInt32.toBitVec h
  rw [toBitVec_word, toBitVec_word] at hpack
  exact pack_injective hlen (by omega) hpack

lemma lossless :
    Lossless 4 digest (fun h block => absorb h (word block)) absorbTail where
  full := digest_eq_digest
  rest := digest_eq_absorbTail
  stateOfStep block h h' heq := (UInt32.xor_left_inj _).mp (xor_of_absorb_eq heq)
  blockOfStep h a b ha hb heq := by
    have hscramble := (UInt32.xor_right_inj h).mp (xor_of_absorb_eq heq)
    exact word_injective (ha.trans hb.symm) (Nat.le_of_eq ha) (scramble_injective hscramble)
  stateOfClose tail h h' heq := by
    by_cases htail : 0 < tail.length
    · simp only [absorbTail, if_pos htail] at heq
      exact (UInt32.xor_left_inj _).mp heq
    · simp only [absorbTail, if_neg htail] at heq
      exact heq
  tailOfClose h a b ha hlen heq := by
    by_cases hpos : 0 < a.length
    · rw [absorbTail, absorbTail, if_pos hpos, if_pos (hlen ▸ hpos), UInt32.xor_right_inj] at heq
      exact word_injective hlen (Nat.le_of_lt ha) (scramble_injective heq)
    · have hnil : a.length = 0 := Nat.eq_zero_of_not_pos hpos
      rw [List.length_eq_zero_iff.mp hnil, List.length_eq_zero_iff.mp (hlen.symm.trans hnil)]

lemma digest_eq_of_murmur32_eq {a b : List UInt8} (hlen : a.length = b.length) {seed seed' : UInt32}
    (h : murmur32 a seed = murmur32 b seed') : digest seed a = digest seed' b := by
  have hxor := avalanche_injective h
  rw [hlen] at hxor
  exact (UInt32.xor_left_inj _).mp hxor

end Murmur32

namespace Murmur128

lemma injective_of_toBitVec {f : UInt64 → UInt64} {g : BitVec 64 → BitVec 64}
    (h : ∀ x, (f x).toBitVec = g x.toBitVec) (hg : Injective g) : Injective f := by
  intro x y hxy
  have hbits : g x.toBitVec = g y.toBitVec := by rw [← h, ← h, hxy]
  exact UInt64.toBitVec_inj.mp (hg hbits)

lemma State.eq_of_words {s t : State} (hlow : s.low = t.low) (hhigh : s.high = t.high) : s = t := by
  cases s
  cases t
  rw [State.mk.injEq]
  exact ⟨hlow, hhigh⟩

lemma mul_low_injective : Injective fun k : BitVec 64 => k * 0x87c37b91114253d5 :=
  mul_injective (by decide)

lemma mul_high_injective : Injective fun k : BitVec 64 => k * 0x4cf5ad432745937f :=
  mul_injective (by decide)

lemma scrambleLow_injective : Injective scrambleLow := by
  apply injective_of_toBitVec toBitVec_scrambleLow
  have hrotate : Injective fun k : BitVec 64 => k.rotateLeft 31 := rotateLeft_injective (by decide)
  exact mul_high_injective.comp (hrotate.comp mul_low_injective)

lemma scrambleHigh_injective : Injective scrambleHigh := by
  apply injective_of_toBitVec toBitVec_scrambleHigh
  have hrotate : Injective fun k : BitVec 64 => k.rotateLeft 33 := rotateLeft_injective (by decide)
  exact mul_low_injective.comp (hrotate.comp mul_high_injective)

lemma avalanche_injective : Injective avalanche := by
  apply injective_of_toBitVec toBitVec_avalanche
  have hshift : Injective fun k : BitVec 64 => k ^^^ k >>> 33 := xor_ushiftRight_injective (by decide)
  have hfirst : Injective fun k : BitVec 64 => k * 0xff51afd7ed558ccd := mul_injective (by decide)
  have hsecond : Injective fun k : BitVec 64 => k * 0xc4ceb9fe1a85ec53 := mul_injective (by decide)
  exact hshift.comp (hsecond.comp (hshift.comp (hfirst.comp hshift)))

lemma rotate_injective {r : UInt64} (hpos : 0 < r.toNat) (hlt : r.toNat < 64) :
    Injective fun x => rotate x r :=
  injective_of_toBitVec (fun x => toBitVec_rotate x r hpos hlt) (rotateLeft_injective hlt)

lemma mul_five_injective : Injective fun x : UInt64 => x * 5 :=
  injective_of_toBitVec (fun _ => UInt64.toBitVec_mul) (mul_injective (by decide))

lemma xor_of_absorb_eq {s s' : State} {k₁ k₂ k₁' k₂' : UInt64}
    (heq : absorb s k₁ k₂ = absorb s' k₁' k₂') :
    s.high ^^^ scrambleHigh k₂ = s'.high ^^^ scrambleHigh k₂' ∧
      (s.high = s'.high → s.low ^^^ scrambleLow k₁ = s'.low ^^^ scrambleLow k₁') := by
  obtain ⟨hlow, hhigh⟩ := State.mk.inj heq
  -- The low word of the result went into the high one, so the high word is found first.
  rw [hlow, UInt64.add_left_inj] at hhigh
  rw [UInt64.add_left_inj] at hlow
  constructor
  · have hrotated := (UInt64.add_left_inj _).mp (mul_five_injective hhigh)
    exact rotate_injective (by decide) (by decide) hrotated
  · intro hs
    have hrotated := mul_five_injective hlow
    simp only [hs, UInt64.add_left_inj] at hrotated
    exact rotate_injective (by decide) (by decide) hrotated

lemma word_injective {a b : List UInt8} (hlen : a.length = b.length) (hle : a.length ≤ 8)
    (h : word a = word b) : a = b := by
  have hpack := congrArg UInt64.toBitVec h
  rw [toBitVec_word, toBitVec_word] at hpack
  exact pack_injective hlen (by omega) hpack

lemma eq_of_words_eq {a b : List UInt8} (hlen : a.length = b.length) (hle : a.length ≤ 16)
    (hlow : word (a.take 8) = word (b.take 8)) (hhigh : word (a.drop 8) = word (b.drop 8)) : a = b := by
  have htake : a.take 8 = b.take 8 := by
    apply word_injective _ _ hlow
    · simp [hlen]
    · simp
  have hdrop : a.drop 8 = b.drop 8 := by
    apply word_injective _ _ hhigh
    · simp [hlen]
    · rw [List.length_drop]
      omega
  rw [← List.take_append_drop 8 a, htake, hdrop, List.take_append_drop]

lemma state_of_absorbTail {s t : State} {tail : List UInt8}
    (heq : absorbTail s tail = absorbTail t tail) : s = t := by
  obtain ⟨hlow, hhigh⟩ := State.mk.inj heq
  apply State.eq_of_words
  · cases hempty : tail.isEmpty with
    | true => simpa [hempty] using hlow
    | false => simpa [hempty] using hlow
  · by_cases hlong : 8 < tail.length
    · simpa [hlong] using hhigh
    · simpa [hlong] using hhigh

lemma tail_of_absorbTail {s : State} {a b : List UInt8} (ha : a.length < 16)
    (hlen : a.length = b.length) (heq : absorbTail s a = absorbTail s b) : a = b := by
  obtain ⟨hlow, hhigh⟩ := State.mk.inj heq
  by_cases hpos : 0 < a.length
  · have hne : a.isEmpty = false := by simpa [List.length_pos_iff] using hpos
    have hne' : b.isEmpty = false := by simpa [List.length_pos_iff, hlen] using hpos
    rw [hne, hne'] at hlow
    have htake : word (a.take 8) = word (b.take 8) :=
      scrambleLow_injective ((UInt64.xor_right_inj _).mp hlow)
    apply eq_of_words_eq hlen (Nat.le_of_lt ha) htake
    by_cases hlong : 8 < a.length
    · rw [if_pos hlong, if_pos (hlen ▸ hlong), UInt64.xor_right_inj] at hhigh
      exact scrambleHigh_injective hhigh
    · rw [List.drop_of_length_le (by omega), List.drop_of_length_le (by omega)]
  · have hnil : a.length = 0 := Nat.eq_zero_of_not_pos hpos
    rw [List.length_eq_zero_iff.mp hnil, List.length_eq_zero_iff.mp (hlen.symm.trans hnil)]

lemma lossless : Lossless 16 digest absorbBlock absorbTail where
  full := digest_eq_digest
  rest := digest_eq_absorbTail
  stateOfStep block s t heq := by
    obtain ⟨hhigh, hlow⟩ := xor_of_absorb_eq heq
    have hh := (UInt64.xor_left_inj _).mp hhigh
    exact State.eq_of_words ((UInt64.xor_left_inj _).mp (hlow hh)) hh
  blockOfStep s a b ha hb heq := by
    obtain ⟨hhigh, hlow⟩ := xor_of_absorb_eq heq
    apply eq_of_words_eq (ha.trans hb.symm) (Nat.le_of_eq ha)
    · exact scrambleLow_injective ((UInt64.xor_right_inj _).mp (hlow rfl))
    · exact scrambleHigh_injective ((UInt64.xor_right_inj _).mp hhigh)
  stateOfClose _ _ _ := state_of_absorbTail
  tailOfClose _ _ _ := tail_of_absorbTail

def State.map (f : UInt64 → UInt64) (s : State) : State := ⟨f s.low, f s.high⟩

def State.crossed (s : State) : State := ⟨s.low + s.high, s.high + (s.low + s.high)⟩

lemma State.map_injective {f : UInt64 → UInt64} (hf : Injective f) : Injective (State.map f) := by
  intro s t heq
  obtain ⟨hlow, hhigh⟩ := State.mk.inj heq
  exact State.eq_of_words (hf hlow) (hf hhigh)

lemma State.crossed_injective : Injective State.crossed := by
  intro s t heq
  obtain ⟨hlow, hhigh⟩ := State.mk.inj heq
  rw [hlow, UInt64.add_left_inj] at hhigh
  rw [hhigh, UInt64.add_left_inj] at hlow
  exact State.eq_of_words hlow hhigh

lemma finish_eq (s : State) (length : UInt64) :
    finish s length = ((s.map (· ^^^ length)).crossed.map avalanche).crossed := rfl

lemma finish_injective (length : UInt64) : Injective fun s => finish s length := by
  have hlength : Injective fun x : UInt64 => x ^^^ length := fun _ _ => (UInt64.xor_left_inj length).mp
  have hfirst := State.crossed_injective.comp (State.map_injective hlength)
  have hsecond := State.crossed_injective.comp (State.map_injective avalanche_injective)
  have hfinish : (fun s => finish s length) = (State.crossed ∘ State.map avalanche) ∘
      State.crossed ∘ State.map (· ^^^ length) := funext fun s => finish_eq s length
  rw [hfinish]
  exact hsecond.comp hfirst

lemma digest_eq_of_murmur128_eq {a b : List UInt8} (hlen : a.length = b.length) {seed seed' : UInt64}
    (h : murmur128 a seed = murmur128 b seed') : digest ⟨seed, seed⟩ a = digest ⟨seed', seed'⟩ b := by
  rw [murmur128, murmur128, hlen] at h
  exact finish_injective _ h

end Murmur128

/-- From the seed on, and for a change within one block of four or sixteen bytes or within the bytes after
the last full block. -/
theorem murmur_injective :
    (∀ key, Injective (murmur32 key)) ∧ (∀ key, Injective (murmur128 key)) ∧
    (∀ a b block seed, AlikeOutside 4 block a b → a ≠ b → murmur32 a seed ≠ murmur32 b seed) ∧
    ∀ a b block seed, AlikeOutside 16 block a b → a ≠ b → murmur128 a seed ≠ murmur128 b seed := by
  refine ⟨fun key seed seed' h => ?_, fun key seed seed' h => ?_, fun a b block seed hab hne h => ?_,
    fun a b block seed hab hne h => ?_⟩
  · have hdigest := Murmur32.digest_eq_of_murmur32_eq rfl h
    exact Murmur32.lossless.digest_injective (by decide) key hdigest
  · have hdigest := Murmur128.digest_eq_of_murmur128_eq rfl h
    have hstate := Murmur128.lossless.digest_injective (by decide) key hdigest
    exact (Murmur128.State.mk.inj hstate).1
  · have hdigest := Murmur32.digest_eq_of_murmur32_eq hab.1 h
    exact hne (Murmur32.lossless.eq_of_digest_eq (by decide) hab hdigest)
  · have hdigest := Murmur128.digest_eq_of_murmur128_eq hab.1 h
    exact hne (Murmur128.lossless.eq_of_digest_eq (by decide) hab hdigest)

theorem murmur_injective_lazyCog :
    let cog := Text.bytes "The quick brown fox jumps over the lazy cog"
    AlikeOutside 4 10 pangram cog ∧ AlikeOutside 16 2 pangram cog ∧ pangram ≠ cog ∧
      murmur32 pangram 0 ≠ murmur32 cog 0 ∧ murmur128 pangram 0 ≠ murmur128 cog 0 := by
  intro cog
  have hset : cog = pangram.set 40 99 := by decide +kernel
  have halike : ∀ size block, 40 / size = block → AlikeOutside size block pangram cog := by
    rintro size _ rfl
    rw [hset]
    refine ⟨List.length_set.symm, fun j hj => ?_⟩
    rw [List.getElem?_set_ne]
    rintro rfl
    exact hj rfl
  have hne : pangram ≠ cog := by decide +kernel
  obtain ⟨-, -, h32, h128⟩ := murmur_injective
  have hfour := halike 4 10 (by decide)
  have hsixteen := halike 16 2 (by decide)
  exact ⟨hfour, hsixteen, hne, h32 _ _ 10 0 hfour hne, h128 _ _ 2 0 hsixteen hne⟩

end Rollout.Hash
