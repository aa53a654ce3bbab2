import Mathlib.Tactic.Common
import Rollout.Text.Units

namespace Rollout.Text

inductive WrittenInUnits : List Char → List UInt16 → Prop
  | nil : WrittenInUnits [] []
  | single {c : Char} {unit : UInt16} {rest : List Char} {units : List UInt16} :
      unit.toNat = c.toNat → WrittenInUnits rest units → WrittenInUnits (c :: rest) (unit :: units)
  | pair {c : Char} {high low : UInt16} {rest : List Char} {units : List UInt16} :
      isHighSurrogate high.toNat → isLowSurrogate low.toNat →
      c.toNat = 0x10000 + (high.toNat - 0xD800) * 0x400 + (low.toNat - 0xDC00) →
      WrittenInUnits rest units → WrittenInUnits (c :: rest) (high :: low :: units)

lemma toNat_lt (c : Char) : c.toNat < 0x110000 := by
  have hvalid := c.valid
  rw [UInt32.isValidChar, Nat.isValidChar] at hvalid
  change c.val.toNat < 0x110000
  omega

lemma toNat_toUInt16 {n : Nat} (h : n < 0x10000) : n.toUInt16.toNat = n := by
  rw [UInt16.toNat_ofNat', Nat.mod_eq_of_lt h]

lemma eq_toUInt16 {unit : UInt16} {n : Nat} (h : unit.toNat = n) : unit = n.toUInt16 := by
  rw [← h]
  exact UInt16.ofNat_toNat.symm

lemma WrittenInUnits.append_charUnits {c : Char} {rest : List Char} {units : List UInt16}
    (h : WrittenInUnits rest units) : WrittenInUnits (c :: rest) (charUnits c ++ units) := by
  have hbound := toNat_lt c
  by_cases hc : c.toNat < 0x10000
  · have hunits : charUnits c = [c.toNat.toUInt16] := if_pos hc
    rw [hunits]
    exact .single (toNat_toUInt16 hc) h
  · have hunits : charUnits c = [(0xD800 + (c.toNat - 0x10000) / 0x400).toUInt16,
        (0xDC00 + (c.toNat - 0x10000) % 0x400).toUInt16] := if_neg hc
    have hhigh := toNat_toUInt16 (n := 0xD800 + (c.toNat - 0x10000) / 0x400) (by omega)
    have hlow := toNat_toUInt16 (n := 0xDC00 + (c.toNat - 0x10000) % 0x400) (by omega)
    rw [hunits]
    apply WrittenInUnits.pair _ _ _ h
    · rw [hhigh, isHighSurrogate, Bool.and_eq_true, decide_eq_true_iff, decide_eq_true_iff]
      omega
    · rw [hlow, isLowSurrogate, Bool.and_eq_true, decide_eq_true_iff, decide_eq_true_iff]
      omega
    · rw [hhigh, hlow]
      omega

lemma WrittenInUnits.eq_flatMap {cs : List Char} {units : List UInt16}
    (h : WrittenInUnits cs units) : units = cs.flatMap charUnits := by
  induction h with
  | nil => rfl
  | @single c unit rest units hunit _ ih =>
    have hlt : c.toNat < 0x10000 := hunit ▸ unit.toNat_lt
    have hunits : charUnits c = [c.toNat.toUInt16] := if_pos hlt
    rw [List.flatMap_cons, hunits, ← eq_toUInt16 hunit, ← ih]
    rfl
  | @pair c high low rest units hhigh hlow hc _ ih =>
    rw [isHighSurrogate, Bool.and_eq_true, decide_eq_true_iff, decide_eq_true_iff] at hhigh
    rw [isLowSurrogate, Bool.and_eq_true, decide_eq_true_iff, decide_eq_true_iff] at hlow
    have hunits : charUnits c = [(0xD800 + (c.toNat - 0x10000) / 0x400).toUInt16,
        (0xDC00 + (c.toNat - 0x10000) % 0x400).toUInt16] := if_neg (by omega)
    have hh : high.toNat = 0xD800 + (c.toNat - 0x10000) / 0x400 := by omega
    have hl : low.toNat = 0xDC00 + (c.toNat - 0x10000) % 0x400 := by omega
    rw [List.flatMap_cons, hunits, ← eq_toUInt16 hh, ← eq_toUInt16 hl, ← ih]
    rfl

theorem writtenInUnits_iff {s : String} {us : List UInt16} :
    WrittenInUnits s.toList us ↔ us = units s := by
  constructor
  · exact WrittenInUnits.eq_flatMap
  · rintro rfl
    rw [units]
    induction s.toList with
    | nil => exact .nil
    | cons c rest ih => exact ih.append_charUnits

end Rollout.Text
