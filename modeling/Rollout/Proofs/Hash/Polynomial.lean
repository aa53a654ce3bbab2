import Mathlib.Algebra.BigOperators.Fin
import Mathlib.Data.Int.ModEq
import Mathlib.Tactic.Ring
import Rollout.Hash.Rolling
import Rollout.Proofs.Text.CodeUnits

/-! What follows a text moves its hash up by as many powers of 31 as it has units, and a seed only
flips bits of the result. -/

namespace Rollout.Hash

def polynomial (units : List UInt16) : Nat :=
  ∑ j : Fin units.length, units[j].toNat * 31 ^ (units.length - 1 - j)

lemma polynomial_cons (u : UInt16) (rest : List UInt16) :
    polynomial (u :: rest) = u.toNat * 31 ^ rest.length + polynomial rest := by
  have hsum := Fin.sum_univ_succ fun j : Fin (rest.length + 1) =>
    (u :: rest)[j].toNat * 31 ^ (rest.length - j)
  refine hsum.trans (congrArg _ (Finset.sum_congr rfl fun j _ => ?_))
  have hpower : rest.length - (j + 1) = rest.length - 1 - j := by omega
  rw [Fin.val_succ, hpower]
  rfl

lemma toBitVec_roll (h : Int32) (u : UInt16) :
    (roll h u).toBitVec = BitVec.ofNat 32 (h.toBitVec.toNat * 31 + u.toNat) := by
  have hunit : u.toUInt32.toInt32.toBitVec = BitVec.ofNat 32 u.toNat := by
    rw [UInt32.toBitVec_toInt32, UInt16.toBitVec_toUInt32, ← BitVec.ofNat_toNat]
    rfl
  rw [roll, Int32.toBitVec_add, Int32.toBitVec_mul, hunit, BitVec.ofNat_add, BitVec.ofNat_mul,
    BitVec.ofNat_toNat, BitVec.setWidth_eq]
  rfl

lemma toBitVec_foldl_roll (h : Int32) (units : List UInt16) :
    (units.foldl roll h).toBitVec =
      BitVec.ofNat 32 (h.toBitVec.toNat * 31 ^ units.length + polynomial units) := by
  induction units generalizing h with
  | nil => simp [polynomial]
  | cons u rest ih =>
    -- The bits of the hash so far are a number that may have wrapped round.
    have hwrapped : (roll h u).toBitVec.toNat ≡ h.toBitVec.toNat * 31 + u.toNat [MOD 2 ^ 32] := by
      rw [toBitVec_roll, BitVec.toNat_ofNat]
      exact Nat.mod_modEq _ _
    have hnext := (hwrapped.mul_right (31 ^ rest.length)).add_right (polynomial rest)
    have hshift : (h.toBitVec.toNat * 31 + u.toNat) * 31 ^ rest.length + polynomial rest =
        h.toBitVec.toNat * 31 ^ (rest.length + 1) + polynomial (u :: rest) := by
      rw [polynomial_cons, Nat.pow_succ]
      ring
    rw [List.foldl_cons, ih, List.length_cons, ← hshift]
    apply BitVec.eq_of_toNat_eq
    rw [BitVec.toNat_ofNat, BitVec.toNat_ofNat]
    exact hnext

lemma rolling_zero (key : String) : rolling key 0 = (Text.units key).foldl roll 0 :=
  Int32.xor_zero

lemma toBitVec_rolling_zero (key : String) :
    (rolling key 0).toBitVec = BitVec.ofNat 32 (polynomial (Text.units key)) := by
  rw [rolling_zero, toBitVec_foldl_roll]
  simp

lemma rolling_append (a b : String) :
    (rolling (a ++ b) 0).toBitVec =
      (rolling a 0).toBitVec * BitVec.ofNat 32 (31 ^ (Text.units b).length) +
        (rolling b 0).toBitVec := by
  rw [rolling_zero, Text.units_append, List.foldl_append, ← rolling_zero, toBitVec_foldl_roll,
    toBitVec_rolling_zero b, BitVec.ofNat_add, BitVec.ofNat_mul, BitVec.ofNat_toNat,
    BitVec.setWidth_eq]

lemma toInt_modEq_toNat (x : Int32) : x.toInt ≡ x.toBitVec.toNat [ZMOD 2 ^ 32] := by
  rw [← Int32.toInt_toBitVec, BitVec.toInt_eq_toNat_bmod]
  exact Int.bmod_emod

theorem rolling_eq_polynomial :
    (∀ key units, Text.WrittenInUnits key.toList units ↔ units = Text.units key) ∧
    (∀ key seed, (rolling key seed).toBitVec =
      BitVec.ofNat 32 (polynomial (Text.units key)) ^^^ seed.toBitVec) ∧
    (∀ a b, (rolling (a ++ b) 0).toInt ≡
      (rolling a 0).toInt * 31 ^ (Text.units b).length + (rolling b 0).toInt [ZMOD 2 ^ 32]) ∧
    ∀ key s s', rolling key s ^^^ rolling key s' = s ^^^ s' := by
  refine ⟨fun _ _ => Text.writtenInUnits_iff, fun key seed => ?_, fun a b => ?_, fun key s s' => ?_⟩
  · rw [← toBitVec_rolling_zero, rolling_zero, rolling, Int32.toBitVec_xor]
  · have hbits : (rolling (a ++ b) 0).toBitVec.toNat ≡
        (rolling a 0).toBitVec.toNat * 31 ^ (Text.units b).length +
          (rolling b 0).toBitVec.toNat [MOD 2 ^ 32] := by
      rw [rolling_append, BitVec.toNat_add, BitVec.toNat_mul, BitVec.toNat_ofNat]
      refine (Nat.mod_modEq _ _).trans (Nat.ModEq.add_right _ ?_)
      exact (Nat.mod_modEq _ _).trans ((Nat.mod_modEq _ _).mul_left _)
    have hints := Int.natCast_modEq_iff.mpr hbits
    push_cast at hints
    have hright := ((toInt_modEq_toNat (rolling a 0)).mul_right (31 ^ (Text.units b).length)).add
      (toInt_modEq_toNat (rolling b 0))
    exact (toInt_modEq_toNat _).trans (hints.trans hright.symm)
  · have hcancel : ∀ h : Int32, (h ^^^ s) ^^^ (h ^^^ s') = s ^^^ s' := by
      intro h
      rw [Int32.xor_comm h s, Int32.xor_assoc, ← Int32.xor_assoc h, Int32.xor_self,
        Int32.zero_xor]
    exact hcancel _

end Rollout.Hash
