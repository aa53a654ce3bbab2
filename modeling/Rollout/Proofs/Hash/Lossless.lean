import Mathlib.Data.Int.ModEq
import Mathlib.Data.Nat.Digits.Defs
import Mathlib.Data.Nat.Prime.Basic
import Rollout.Proofs.Hash.Bytes

namespace Rollout.Hash

open Function (Injective)

section Words

variable {w : Nat}

lemma mul_injective {c : BitVec w} (h : Odd c.toNat) : Injective fun x : BitVec w => x * c := by
  intro x y hxy
  have hcoprime : Nat.Coprime (2 ^ w) c.toNat := (Nat.coprime_two_left.mpr h).pow_left w
  have hmod : x.toNat * c.toNat ≡ y.toNat * c.toNat [MOD 2 ^ w] := by
    have hnat := congrArg BitVec.toNat hxy
    rwa [BitVec.toNat_mul, BitVec.toNat_mul] at hnat
  have hcancel := hmod.cancel_right_of_coprime hcoprime
  apply BitVec.eq_of_toNat_eq
  rwa [Nat.ModEq, Nat.mod_eq_of_lt x.isLt, Nat.mod_eq_of_lt y.isLt] at hcancel

lemma rotateLeft_injective {r : Nat} (h : r < w) : Injective fun x : BitVec w => x.rotateLeft r := by
  intro x y hxy
  apply BitVec.eq_of_getLsbD_eq
  intro i hi
  -- the bit has moved up, or has come in again at the lower end
  by_cases hup : i + r < w
  · have hbit := congrArg (fun z : BitVec w => z.getLsbD (i + r)) hxy
    simpa [BitVec.getLsbD_rotateLeft, Nat.mod_eq_of_lt h, hup, hi] using hbit
  · have hlow : i + r - w < r := by omega
    have hback : w - r + (i + r - w) = i := by omega
    have hbit := congrArg (fun z : BitVec w => z.getLsbD (i + r - w)) hxy
    simpa [BitVec.getLsbD_rotateLeft, Nat.mod_eq_of_lt h, hlow, hback] using hbit

lemma eq_zero_of_ushiftRight_eq {n : Nat} (hn : 0 < n) {x : BitVec w} (h : x >>> n = x) : x = 0 := by
  have hdiv : x.toNat / 2 ^ n = x.toNat := by
    rw [← Nat.shiftRight_eq_div_pow, ← BitVec.toNat_ushiftRight, h]
  by_contra hx
  have hpos : 0 < x.toNat := by
    apply Nat.pos_of_ne_zero
    exact fun hzero => hx (BitVec.eq_of_toNat_eq hzero)
  have hlt : x.toNat / 2 ^ n < x.toNat := Nat.div_lt_self hpos (Nat.one_lt_two_pow hn.ne')
  omega

lemma xor_ushiftRight_injective {n : Nat} (hn : 0 < n) :
    Injective fun x : BitVec w => x ^^^ x >>> n := by
  intro x y hxy
  have hcancel : ∀ a b c d : BitVec w, a ^^^ c = b ^^^ d → c ^^^ d = a ^^^ b := by
    intro a b c d hab
    calc c ^^^ d = (a ^^^ a) ^^^ (c ^^^ d) := by rw [BitVec.xor_self, BitVec.zero_xor]
      _ = (a ^^^ c) ^^^ (a ^^^ d) := by ac_rfl
      _ = (b ^^^ d) ^^^ (a ^^^ d) := by rw [hab]
      _ = (a ^^^ b) ^^^ (d ^^^ d) := by ac_rfl
      _ = a ^^^ b := by rw [BitVec.xor_self, BitVec.xor_zero]
  -- Where two words differ their shifts differ in the same way: the difference is its own shift.
  have hshift : (x ^^^ y) >>> n = x ^^^ y := by
    rw [BitVec.ushiftRight_xor_distrib]
    exact hcancel x y (x >>> n) (y >>> n) hxy
  exact BitVec.xor_eq_zero_iff.mp (eq_zero_of_ushiftRight_eq hn hshift)

lemma pack_eq_ofDigits (bytes : List UInt8) :
    pack w bytes = BitVec.ofNat w (Nat.ofDigits 256 (bytes.map UInt8.toNat)) := by
  induction bytes with
  | nil => rfl
  | cons b rest ih =>
    rw [pack_cons_add, ih, List.map_cons, Nat.ofDigits_cons]
    apply BitVec.eq_of_toNat_eq
    simp [Nat.shiftLeft_eq, Nat.mul_comm 256]

lemma lt_of_mem_bytes {bytes : List UInt8} {n : Nat} (h : n ∈ bytes.map UInt8.toNat) : n < 256 := by
  obtain ⟨b, -, rfl⟩ := List.mem_map.mp h
  exact b.toNat_lt

lemma toNat_pack {bytes : List UInt8} (h : 8 * bytes.length ≤ w) :
    (pack w bytes).toNat = Nat.ofDigits 256 (bytes.map UInt8.toNat) := by
  have hdigits : ∀ n ∈ bytes.map UInt8.toNat, n < 256 := fun _ => lt_of_mem_bytes
  have hlt := Nat.ofDigits_lt_base_pow_length (by decide) hdigits
  rw [List.length_map] at hlt
  have hbound : 256 ^ bytes.length ≤ 2 ^ w :=
    calc 256 ^ bytes.length = 2 ^ (8 * bytes.length) := by rw [Nat.pow_mul]
      _ ≤ 2 ^ w := Nat.pow_le_pow_right (by decide) h
  rw [pack_eq_ofDigits, BitVec.toNat_ofNat, Nat.mod_eq_of_lt (Nat.lt_of_lt_of_le hlt hbound)]

lemma pack_injective {a b : List UInt8} (hlen : a.length = b.length) (h : 8 * a.length ≤ w)
    (heq : pack w a = pack w b) : a = b := by
  have hdigits := congrArg BitVec.toNat heq
  rw [toNat_pack h, toNat_pack (hlen ▸ h)] at hdigits
  have hmap := Nat.ofDigits_inj_of_len_eq (by decide) (by simpa using hlen)
    (fun _ => lt_of_mem_bytes) (fun _ => lt_of_mem_bytes) hdigits
  exact List.map_injective_iff.mpr (fun _ _ => UInt8.toNat_inj.mp) hmap

end Words

/-- Two keys of one length that differ at most within the block of that number, counted from zero. The
bytes after the last full block count as a block. -/
def AlikeOutside (size block : Nat) (a b : List UInt8) : Prop :=
  a.length = b.length ∧ ∀ j, j / size ≠ block → a[j]? = b[j]?

/-- A digest by blocks whose parts each lose nothing. -/
structure Lossless {σ : Type} (size : Nat) (digest step close : σ → List UInt8 → σ) : Prop where
  full : ∀ s key, size ≤ key.length → digest s key = digest (step s (key.take size)) (key.drop size)
  rest : ∀ s key, key.length < size → digest s key = close s key
  stateOfStep : ∀ block, Injective fun s => step s block
  blockOfStep : ∀ s block block', block.length = size → block'.length = size →
    step s block = step s block' → block = block'
  stateOfClose : ∀ tail, Injective fun s => close s tail
  tailOfClose : ∀ s tail tail', tail.length < size → tail.length = tail'.length →
    close s tail = close s tail' → tail = tail'

section Blocks

variable {size block : Nat} {a b : List UInt8}

lemma AlikeOutside.drop (hsize : 0 < size) (h : AlikeOutside size (block + 1) a b) :
    AlikeOutside size block (a.drop size) (b.drop size) := by
  refine ⟨by rw [List.length_drop, List.length_drop, h.1], fun j hj => ?_⟩
  rw [List.getElem?_drop, List.getElem?_drop]
  apply h.2
  rw [Nat.add_div_left j hsize]
  exact fun hblock => hj (Nat.succ.inj hblock)

lemma AlikeOutside.take_eq (h : AlikeOutside size (block + 1) a b) :
    a.take size = b.take size := by
  apply List.ext_getElem?
  intro j
  rw [List.getElem?_take, List.getElem?_take]
  split
  · rename_i hj
    apply h.2
    rw [Nat.div_eq_of_lt hj]
    exact (Nat.succ_ne_zero block).symm
  · rfl

lemma AlikeOutside.drop_eq (hsize : 0 < size) (h : AlikeOutside size 0 a b) :
    a.drop size = b.drop size := by
  apply List.ext_getElem?
  intro j
  rw [List.getElem?_drop, List.getElem?_drop]
  apply h.2
  rw [Nat.add_div_left j hsize]
  exact Nat.succ_ne_zero _

variable {σ : Type} {digest step close : σ → List UInt8 → σ}

namespace Lossless

lemma digest_injective (hd : Lossless size digest step close) (hsize : 0 < size) (key : List UInt8) :
    Injective fun s => digest s key := by
  induction hn : key.length using Nat.strong_induction_on generalizing key with
  | _ n ih =>
    intro s t hst
    by_cases hfull : size ≤ key.length
    · have hlt : (key.drop size).length < n := by
        rw [List.length_drop]
        omega
      have hnext : digest (step s (key.take size)) (key.drop size) =
          digest (step t (key.take size)) (key.drop size) := by
        rw [← hd.full s key hfull, ← hd.full t key hfull]
        exact hst
      exact hd.stateOfStep _ (ih _ hlt _ rfl hnext)
    · have hrest := Nat.lt_of_not_le hfull
      have hclose : close s key = close t key := by
        rw [← hd.rest s key hrest, ← hd.rest t key hrest]
        exact hst
      exact hd.stateOfClose key hclose

lemma eq_of_digest_eq (hd : Lossless size digest step close) (hsize : 0 < size)
    (h : AlikeOutside size block a b) {s : σ} (heq : digest s a = digest s b) : a = b := by
  -- By induction on the number of the block: the blocks before it are the same in both keys.
  induction block generalizing s a b with
  | zero =>
    by_cases hfull : size ≤ a.length
    · have hdrop := h.drop_eq hsize
      have hfull' : size ≤ b.length := h.1 ▸ hfull
      rw [hd.full s a hfull, hd.full s b hfull', hdrop] at heq
      have htake : a.take size = b.take size := by
        apply hd.blockOfStep s
        · exact List.length_take_of_le hfull
        · exact List.length_take_of_le hfull'
        · exact hd.digest_injective hsize _ heq
      rw [← List.take_append_drop size a, htake, hdrop, List.take_append_drop]
    · have hrest := Nat.lt_of_not_le hfull
      rw [hd.rest s a hrest, hd.rest s b (h.1 ▸ hrest)] at heq
      exact hd.tailOfClose s a b hrest h.1 heq
  | succ block ih =>
    have htake := h.take_eq
    by_cases hfull : size ≤ a.length
    · rw [hd.full s a hfull, hd.full s b (h.1 ▸ hfull), htake] at heq
      rw [← List.take_append_drop size a, htake, ih (h.drop hsize) heq, List.take_append_drop]
    · have hrest := Nat.le_of_not_le hfull
      rwa [List.take_of_length_le hrest, List.take_of_length_le (h.1 ▸ hrest)] at htake

end Lossless

end Blocks

end Rollout.Hash
