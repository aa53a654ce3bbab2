import Mathlib.Algebra.BigOperators.Ring.Finset

namespace Rollout.Hash

def littleEndian (data : Nat → UInt8) (count : Nat) : Nat :=
  ∑ j ∈ Finset.range count, (data j).toNat * 256 ^ j

def place (w : Nat) (b : UInt8) (j : Nat) : BitVec w := b.toBitVec.setWidth w <<< (8 * j)

/-- Entered at the case of a count, and falling through to the first one: each case puts one byte of
the tail in its place. -/
def fallThrough {w : Nat} (tail : Nat → UInt8) : Nat → BitVec w → BitVec w
  | 0, k => k
  | n + 1, k => fallThrough tail n (k ^^^ place w (tail n) n)

def pack (w : Nat) : List UInt8 → BitVec w
  | [] => 0
  | b :: rest => b.toBitVec.setWidth w ||| pack w rest <<< 8

variable {w : Nat}

-- The lowest byte and the others have no bit in common.
lemma setWidth_and_shiftLeft (b : UInt8) (k : BitVec w) : b.toBitVec.setWidth w &&& k <<< 8 = 0 := by
  apply BitVec.eq_of_getLsbD_eq
  intro i hi
  by_cases h : i < 8
  · simp [h]
  · simp [BitVec.getLsbD_of_ge b.toBitVec i (by omega)]

lemma pack_cons_add (b : UInt8) (rest : List UInt8) :
    pack w (b :: rest) = b.toBitVec.setWidth w + pack w rest <<< 8 := by
  rw [pack, BitVec.add_eq_or_of_and_eq_zero _ _ (setWidth_and_shiftLeft b _)]

lemma or_eq_xor {x y : BitVec w} (h : x &&& y = 0) : x ||| y = x ^^^ y := by
  apply BitVec.eq_of_getLsbD_eq
  intro i hi
  have hbit : (x.getLsbD i && y.getLsbD i) = false := by
    rw [← BitVec.getLsbD_and, h]
    exact BitVec.getLsbD_zero
  cases hx : x.getLsbD i <;> simp_all

lemma pack_cons_xor (b : UInt8) (rest : List UInt8) :
    pack w (b :: rest) = place w b 0 ^^^ pack w rest <<< 8 := by
  rw [pack, or_eq_xor (setWidth_and_shiftLeft b _), place, Nat.mul_zero, BitVec.shiftLeft_zero]

lemma littleEndian_succ (data : Nat → UInt8) (n : Nat) :
    littleEndian data (n + 1) = (data 0).toNat + 256 * littleEndian (fun j => data (j + 1)) n := by
  rw [littleEndian, Finset.sum_range_succ', littleEndian, Finset.mul_sum, Nat.pow_zero, Nat.mul_one,
    Nat.add_comm]
  congr 1
  apply Finset.sum_congr rfl
  intro j _
  rw [Nat.pow_succ, Nat.mul_comm (256 ^ j), Nat.mul_left_comm]

lemma pack_range (data : Nat → UInt8) (n : Nat) :
    pack w ((List.range n).map data) = BitVec.ofNat w (littleEndian data n) := by
  induction n generalizing data with
  | zero => rfl
  | succ n ih =>
    rw [List.range_succ_eq_map, List.map_cons, List.map_map, pack_cons_add, littleEndian_succ]
    rw [ih]
    apply BitVec.eq_of_toNat_eq
    simp [Nat.shiftLeft_eq, Nat.mul_comm 256, Function.comp_def]

lemma pack_append_singleton (bytes : List UInt8) (b : UInt8) :
    pack w (bytes ++ [b]) = pack w bytes ^^^ place w b bytes.length := by
  induction bytes with
  | nil => simp [pack, place]
  | cons a rest ih =>
    rw [List.cons_append, pack_cons_xor, ih, pack_cons_xor, BitVec.xor_assoc, List.length_cons]
    congr 1
    rw [BitVec.shiftLeft_xor_distrib, place, place, ← BitVec.shiftLeft_add]
    rfl

lemma fallThrough_eq (data : Nat → UInt8) (n : Nat) (k : BitVec w) :
    fallThrough data n k = k ^^^ pack w ((List.range n).map data) := by
  induction n generalizing k with
  | zero => simp [fallThrough, pack]
  | succ n ih =>
    rw [fallThrough, ih, List.range_succ, List.map_append, List.map_singleton,
      pack_append_singleton, List.length_map, List.length_range, BitVec.xor_assoc,
      BitVec.xor_comm (place w (data n) n)]

section Blocks

variable {σ : Type} {size : Nat} {digest close : σ → List UInt8 → σ} (step : σ → List UInt8 → σ)

lemma digest_eq_foldl (hsize : 0 < size)
    (hstep : ∀ s key, size ≤ key.length → digest s key = digest (step s (key.take size)) (key.drop size))
    (hclose : ∀ s key, key.length < size → digest s key = close s key) (s : σ) (key : List UInt8) :
    digest s key =
      close ((List.range (key.length / size)).foldl
          (fun s i => step s ((key.drop (size * i)).take size)) s)
        (key.drop (size * (key.length / size))) := by
  induction hn : key.length / size generalizing s key with
  | zero =>
    have hlt : key.length < size := (Nat.div_eq_zero_iff_lt hsize).mp hn
    rw [hclose s key hlt]
    rfl
  | succ n ih =>
    have hle : size ≤ key.length := by
      by_contra h
      rw [Nat.div_eq_of_lt (by omega)] at hn
      cases hn
    have hrest : (key.drop size).length / size = n := by
      rw [Nat.div_eq_sub_div hsize hle] at hn
      rw [List.length_drop]
      exact Nat.succ.inj hn
    rw [hstep s key hle, ih _ _ hrest, List.range_succ_eq_map, List.foldl_cons, List.foldl_map,
      Nat.mul_zero, List.drop_zero]
    simp only [List.drop_drop, Nat.succ_eq_add_one, Nat.mul_succ, Nat.add_comm size]

variable {data : Nat → UInt8} {key : List UInt8} (hdata : ∀ i (hi : i < key.length), data i = key[i])

include hdata

lemma take_drop_eq (m n : Nat) :
    (key.drop m).take n = (List.range (min n (key.length - m))).map fun j => data (m + j) := by
  apply List.ext_getElem
  · simp
  · intro j hj hj'
    rw [List.getElem_take, List.getElem_drop, List.getElem_map, List.getElem_range, hdata]

lemma drop_eq (m : Nat) :
    key.drop m = (List.range (key.length - m)).map fun j => data (m + j) := by
  have htake := take_drop_eq hdata m (key.length - m)
  rwa [List.take_of_length_le (by simp), Nat.min_self] at htake

lemma pack_take_drop {m n : Nat} (h : m + n ≤ key.length) :
    pack w ((key.drop m).take n) = BitVec.ofNat w (littleEndian (fun j => data (m + j)) n) := by
  rw [take_drop_eq hdata, Nat.min_eq_left (by omega), pack_range]

end Blocks

end Rollout.Hash
