import Rollout.Hash.Murmur32
import Rollout.Hash.Murmur128
import Rollout.Proofs.Hash.Bytes
import Rollout.Text.Units

/-! MurmurHash3 as it is published, for bytes at an address: block `i` stands at its offset, and the
bytes after the last full block go through the cases of a switch on their number. -/

namespace Rollout.Hash

namespace Murmur32

namespace Indexed

def scramble (k : BitVec 32) : BitVec 32 :=
  (k * 0xcc9e2d51).rotateLeft 15 * 0x1b873593

def avalanche (h : BitVec 32) : BitVec 32 :=
  let h := (h ^^^ (h >>> 16)) * 0x85ebca6b
  let h := (h ^^^ (h >>> 13)) * 0xc2b2ae35
  h ^^^ (h >>> 16)

def block (data : Nat → UInt8) (h : BitVec 32) (i : Nat) : BitVec 32 :=
  let k := BitVec.ofNat 32 (littleEndian (fun j => data (4 * i + j)) 4)
  (h ^^^ scramble k).rotateLeft 13 * 5 + 0xe6546b64

def tail (data : Nat → UInt8) (count : Nat) (h : BitVec 32) : BitVec 32 :=
  if 0 < count then h ^^^ scramble (fallThrough data count 0#32) else h

end Indexed

def indexed (data : Nat → UInt8) (length : Nat) (seed : BitVec 32) : BitVec 32 :=
  let blocks := length / 4
  let h := (List.range blocks).foldl (Indexed.block data) seed
  let h := Indexed.tail (fun j => data (4 * blocks + j)) (length % 4) h
  Indexed.avalanche (h ^^^ BitVec.ofNat 32 length)

lemma toBitVec_word (bytes : List UInt8) : (word bytes).toBitVec = pack 32 bytes := by
  induction bytes with
  | nil => rfl
  | cons b rest ih => simp [word, pack, ih]

lemma toBitVec_rotate (x r : UInt32) (hpos : 0 < r.toNat) (hlt : r.toNat < 32) :
    (rotate x r).toBitVec = x.toBitVec.rotateLeft r.toNat := by
  simp [rotate, BitVec.rotateLeft_def, Nat.mod_eq_of_lt hlt]
  congr 2
  omega

lemma toBitVec_scramble (k : UInt32) : (scramble k).toBitVec = Indexed.scramble k.toBitVec := by
  rw [scramble, UInt32.toBitVec_mul, toBitVec_rotate _ _ (by decide) (by decide)]
  rfl

lemma toBitVec_absorb (h k : UInt32) :
    (absorb h k).toBitVec =
      (h.toBitVec ^^^ Indexed.scramble k.toBitVec).rotateLeft 13 * 5 + 0xe6546b64 := by
  rw [absorb, UInt32.toBitVec_add, UInt32.toBitVec_mul,
    toBitVec_rotate _ _ (by decide) (by decide), UInt32.toBitVec_xor, toBitVec_scramble]
  rfl

lemma toBitVec_shiftRight (x r : UInt32) (hlt : r.toNat < 32) :
    (x >>> r).toBitVec = x.toBitVec >>> r.toNat := by
  simp [UInt32.toBitVec_shiftRight, Nat.mod_eq_of_lt hlt]

lemma toBitVec_avalanche (h : UInt32) : (avalanche h).toBitVec = Indexed.avalanche h.toBitVec := by
  simp only [avalanche, Indexed.avalanche, UInt32.toBitVec_xor, UInt32.toBitVec_mul,
    toBitVec_shiftRight _ 16 (by decide), toBitVec_shiftRight _ 13 (by decide)]
  rfl

def absorbTail (h : UInt32) (tail : List UInt8) : UInt32 :=
  if 0 < tail.length then h ^^^ scramble (word tail) else h

-- Sealed, so that unfolding stops at the words.
seal absorb scramble

lemma digest_eq_digest (h : UInt32) (key : List UInt8) (hlen : 4 ≤ key.length) :
    digest h key = digest (absorb h (word (key.take 4))) (key.drop 4) := by
  match key, hlen with
  | _ :: _ :: _ :: _ :: _, _ => rfl

lemma digest_eq_absorbTail (h : UInt32) (key : List UInt8) (hlen : key.length < 4) :
    digest h key = absorbTail h key := by
  match key with
  | [] => rfl
  | [_] => rfl
  | [_, _] => rfl
  | [_, _, _] => rfl

unseal absorb scramble

variable {data : Nat → UInt8} {key : List UInt8} (hdata : ∀ i (hi : i < key.length), data i = key[i])

include hdata

lemma toBitVec_absorbTail (h : UInt32) (n : Nat) :
    (absorbTail h (key.drop n)).toBitVec =
      Indexed.tail (fun j => data (n + j)) (key.length - n) h.toBitVec := by
  rw [absorbTail, Indexed.tail, List.length_drop]
  split
  · rw [UInt32.toBitVec_xor, toBitVec_scramble, toBitVec_word, fallThrough_eq, BitVec.zero_xor,
      drop_eq hdata]
  · rfl

lemma toBitVec_block (h : UInt32) {i : Nat} (hi : 4 * i + 4 ≤ key.length) :
    (absorb h (word ((key.drop (4 * i)).take 4))).toBitVec = Indexed.block data h.toBitVec i := by
  rw [toBitVec_absorb, toBitVec_word, pack_take_drop hdata hi]
  rfl

lemma toBitVec_murmur32 (seed : UInt32) :
    (murmur32 key seed).toBitVec = indexed data key.length seed.toBitVec := by
  have hblocks : ((List.range (key.length / 4)).foldl
      (fun h i => absorb h (word ((key.drop (4 * i)).take 4))) seed).toBitVec =
        (List.range (key.length / 4)).foldl (Indexed.block data) seed.toBitVec := by
    refine List.foldl_rel (r := fun h x => UInt32.toBitVec h = x) rfl ?_
    rintro i hi h _ rfl
    rw [List.mem_range] at hi
    exact toBitVec_block hdata h (by omega)
  -- What follows the last full block is as long as the remainder of the length.
  rw [murmur32, toBitVec_avalanche, UInt32.toBitVec_xor,
    digest_eq_foldl (fun h block => absorb h (word block)) (by decide) digest_eq_digest
      digest_eq_absorbTail,
    toBitVec_absorbTail hdata, hblocks, ← Nat.mod_def]
  rfl

end Murmur32

namespace Murmur128

namespace Indexed

def scrambleLow (k : BitVec 64) : BitVec 64 :=
  (k * 0x87c37b91114253d5).rotateLeft 31 * 0x4cf5ad432745937f

def scrambleHigh (k : BitVec 64) : BitVec 64 :=
  (k * 0x4cf5ad432745937f).rotateLeft 33 * 0x87c37b91114253d5

def avalanche (k : BitVec 64) : BitVec 64 :=
  let k := (k ^^^ (k >>> 33)) * 0xff51afd7ed558ccd
  let k := (k ^^^ (k >>> 33)) * 0xc4ceb9fe1a85ec53
  k ^^^ (k >>> 33)

def absorb (h : BitVec 64 × BitVec 64) (k₁ k₂ : BitVec 64) : BitVec 64 × BitVec 64 :=
  let low := ((h.1 ^^^ scrambleLow k₁).rotateLeft 27 + h.2) * 5 + 0x52dce729
  let high := ((h.2 ^^^ scrambleHigh k₂).rotateLeft 31 + low) * 5 + 0x38495ab5
  (low, high)

def block (data : Nat → UInt8) (h : BitVec 64 × BitVec 64) (i : Nat) : BitVec 64 × BitVec 64 :=
  absorb h (BitVec.ofNat 64 (littleEndian (fun j => data (16 * i + j)) 8))
    (BitVec.ofNat 64 (littleEndian (fun j => data (16 * i + 8 + j)) 8))

def tail (data : Nat → UInt8) (count : Nat) (h : BitVec 64 × BitVec 64) : BitVec 64 × BitVec 64 :=
  let high := if 8 < count then
      h.2 ^^^ scrambleHigh (fallThrough (fun j => data (8 + j)) (count - 8) 0#64)
    else h.2
  let low := if 0 < count then h.1 ^^^ scrambleLow (fallThrough data (min 8 count) 0#64) else h.1
  (low, high)

def finish (h : BitVec 64 × BitVec 64) (length : BitVec 64) : BitVec 64 × BitVec 64 :=
  let low := h.1 ^^^ length
  let high := h.2 ^^^ length
  let low := low + high
  let high := high + low
  let low := avalanche low
  let high := avalanche high
  let low := low + high
  (low, high + low)

end Indexed

def indexed (data : Nat → UInt8) (length : Nat) (seed : BitVec 64) : BitVec 64 × BitVec 64 :=
  let blocks := length / 16
  let h := (List.range blocks).foldl (Indexed.block data) (seed, seed)
  let h := Indexed.tail (fun j => data (16 * blocks + j)) (length % 16) h
  Indexed.finish h (BitVec.ofNat 64 length)

def State.bits (s : State) : BitVec 64 × BitVec 64 := (s.low.toBitVec, s.high.toBitVec)

lemma toBitVec_word (bytes : List UInt8) : (word bytes).toBitVec = pack 64 bytes := by
  induction bytes with
  | nil => rfl
  | cons b rest ih => simp [word, pack, ih]

lemma toBitVec_rotate (x r : UInt64) (hpos : 0 < r.toNat) (hlt : r.toNat < 64) :
    (rotate x r).toBitVec = x.toBitVec.rotateLeft r.toNat := by
  simp [rotate, BitVec.rotateLeft_def, Nat.mod_eq_of_lt hlt]
  congr 2
  omega

lemma toBitVec_shiftRight (x r : UInt64) (hlt : r.toNat < 64) :
    (x >>> r).toBitVec = x.toBitVec >>> r.toNat := by
  simp [UInt64.toBitVec_shiftRight, Nat.mod_eq_of_lt hlt]

lemma toBitVec_scrambleLow (k : UInt64) :
    (scrambleLow k).toBitVec = Indexed.scrambleLow k.toBitVec := by
  rw [scrambleLow, UInt64.toBitVec_mul, toBitVec_rotate _ _ (by decide) (by decide)]
  rfl

lemma toBitVec_scrambleHigh (k : UInt64) :
    (scrambleHigh k).toBitVec = Indexed.scrambleHigh k.toBitVec := by
  rw [scrambleHigh, UInt64.toBitVec_mul, toBitVec_rotate _ _ (by decide) (by decide)]
  rfl

lemma toBitVec_avalanche (k : UInt64) : (avalanche k).toBitVec = Indexed.avalanche k.toBitVec := by
  simp only [avalanche, Indexed.avalanche, UInt64.toBitVec_xor, UInt64.toBitVec_mul,
    toBitVec_shiftRight _ 33 (by decide)]
  rfl

lemma bits_absorb (s : State) (k₁ k₂ : UInt64) :
    (absorb s k₁ k₂).bits = Indexed.absorb s.bits k₁.toBitVec k₂.toBitVec := by
  simp only [absorb, State.bits, Indexed.absorb, UInt64.toBitVec_add, UInt64.toBitVec_mul,
    toBitVec_rotate _ 27 (by decide) (by decide), toBitVec_rotate _ 31 (by decide) (by decide),
    UInt64.toBitVec_xor, toBitVec_scrambleLow, toBitVec_scrambleHigh]
  rfl

lemma bits_finish (s : State) (length : UInt64) :
    (finish s length).bits = Indexed.finish s.bits length.toBitVec := by
  simp only [finish, State.bits, Indexed.finish, UInt64.toBitVec_add, UInt64.toBitVec_xor,
    toBitVec_avalanche]

def absorbBlock (s : State) (block : List UInt8) : State :=
  absorb s (word (block.take 8)) (word (block.drop 8))

lemma digest_eq_digest (s : State) (key : List UInt8) (hlen : 16 ≤ key.length) :
    digest s key = digest (absorbBlock s (key.take 16)) (key.drop 16) := by
  rw [digest, dif_pos hlen, absorbBlock, List.take_take, List.drop_take]
  rfl

lemma digest_eq_absorbTail (s : State) (key : List UInt8) (hlen : key.length < 16) :
    digest s key = absorbTail s key := by
  rw [digest, dif_neg (by omega)]

variable {data : Nat → UInt8} {key : List UInt8} (hdata : ∀ i (hi : i < key.length), data i = key[i])

include hdata

lemma bits_absorbTail (s : State) (n : Nat) :
    (absorbTail s (key.drop n)).bits =
      Indexed.tail (fun j => data (n + j)) (key.length - n) s.bits := by
  have hlow : (word ((key.drop n).take 8)).toBitVec =
      fallThrough (fun j => data (n + j)) (min 8 (key.length - n)) 0#64 := by
    rw [toBitVec_word, take_drop_eq hdata, fallThrough_eq, BitVec.zero_xor]
  have hhigh : (word ((key.drop n).drop 8)).toBitVec =
      fallThrough (fun j => data (n + (8 + j))) (key.length - n - 8) 0#64 := by
    rw [toBitVec_word, List.drop_drop, drop_eq hdata, fallThrough_eq, BitVec.zero_xor,
      Nat.sub_sub]
    simp only [Nat.add_assoc]
  have hempty : (key.drop n).isEmpty = true ↔ ¬ 0 < key.length - n := by
    rw [List.isEmpty_iff_length_eq_zero, List.length_drop]
    omega
  apply Prod.ext
  · simp only [State.bits, absorbTail, Indexed.tail, hempty, ite_not]
    split
    · rw [UInt64.toBitVec_xor, toBitVec_scrambleLow, hlow]
    · rfl
  · simp only [State.bits, absorbTail, Indexed.tail, List.length_drop]
    split
    · rw [UInt64.toBitVec_xor, toBitVec_scrambleHigh, hhigh]
    · rfl

lemma bits_absorbBlock (s : State) {i : Nat} (hi : 16 * i + 16 ≤ key.length) :
    (absorbBlock s ((key.drop (16 * i)).take 16)).bits = Indexed.block data s.bits i := by
  rw [absorbBlock, bits_absorb, toBitVec_word, toBitVec_word, List.take_take, List.drop_take,
    List.drop_drop, Nat.min_eq_left (by omega), pack_take_drop hdata (by omega),
    pack_take_drop hdata (by omega)]
  rfl

lemma bits_murmur128 (seed : UInt64) :
    (murmur128 key seed).bits = indexed data key.length seed.toBitVec := by
  have hblocks : ((List.range (key.length / 16)).foldl
      (fun s i => absorbBlock s ((key.drop (16 * i)).take 16)) ⟨seed, seed⟩).bits =
        (List.range (key.length / 16)).foldl (Indexed.block data) (seed.toBitVec, seed.toBitVec) := by
    refine List.foldl_rel (r := fun s h => State.bits s = h) rfl ?_
    rintro i hi s _ rfl
    rw [List.mem_range] at hi
    exact bits_absorbBlock hdata s (by omega)
  rw [murmur128, bits_finish,
    digest_eq_foldl absorbBlock (by decide) digest_eq_digest digest_eq_absorbTail,
    bits_absorbTail hdata, hblocks, ← Nat.mod_def]
  rfl

end Murmur128

theorem murmur_eq_indexed {data : Nat → UInt8} {key : List UInt8}
    (hdata : ∀ i (hi : i < key.length), data i = key[i]) :
    (∀ seed : UInt32,
      (murmur32 key seed).toBitVec = Murmur32.indexed data key.length seed.toBitVec) ∧
    ∀ seed : UInt64,
      ((murmur128 key seed).low.toBitVec, (murmur128 key seed).high.toBitVec) =
        Murmur128.indexed data key.length seed.toBitVec :=
  ⟨Murmur32.toBitVec_murmur32 hdata, Murmur128.bits_murmur128 hdata⟩

def pangram : List UInt8 := Text.bytes "The quick brown fox jumps over the lazy dog"

theorem murmur_eq_indexed_pangram :
    Murmur32.indexed (fun i => pangram.getD i 0xff) 43 0x9747b28c = 0x2fa826cd ∧
      Murmur128.indexed (fun i => pangram.getD i 0xff) 43 0 =
        (0xe34bbc7bbc071b6c, 0x7a433ca9c49a9347) := by
  have hdata : ∀ i (hi : i < pangram.length), pangram.getD i 0xff = pangram[i] :=
    fun i hi => (List.getElem_eq_getD 0xff).symm
  obtain ⟨h32, h128⟩ := murmur_eq_indexed hdata
  have hmurmur32 : murmur32 pangram 0x9747b28c = 0x2fa826cd := by decide +kernel
  have hmurmur128 : murmur128 pangram 0 = ⟨0xe34bbc7bbc071b6c, 0x7a433ca9c49a9347⟩ := by
    decide +kernel
  constructor
  · exact (h32 0x9747b28c).symm.trans (congrArg UInt32.toBitVec hmurmur32)
  · exact (h128 0).symm.trans (congrArg Murmur128.State.bits hmurmur128)

end Rollout.Hash
