import Mathlib.Data.String.Basic
import Mathlib.Order.Compare
import Rollout.Text.Units

namespace Rollout.Text

variable {r r' : List UInt8}

lemma compareLex_eq_lt_iff : List.compareLex compare r r' = .lt ↔ r < r' := by
  induction r generalizing r' with
  | nil => cases r' <;> simp [List.compareLex_nil_nil, List.compareLex_nil_cons]
  | cons a r ih =>
    cases r' with
    | nil => simp [List.compareLex_cons_nil]
    | cons b r' =>
      rw [List.compareLex_cons_cons, Ordering.then_eq_lt, List.cons_lt_cons_iff, Std.compare_eq_lt,
        Std.compare_eq_iff_eq, ih]

lemma compareLex_eq_gt_iff : List.compareLex compare r r' = .gt ↔ r' < r := by
  rw [← compareLex_eq_lt_iff]
  exact Std.OrientedCmp.gt_iff_lt

lemma utf8EncodeChar_append_lt {c d : Char} (h : c < d) (r r' : List UInt8) :
    String.utf8EncodeChar c ++ r < String.utf8EncodeChar d ++ r' := by
  have hval : c.val.toNat < d.val.toNat := h
  have hd : d.val.toNat < 0x110000 := by
    have hvalid := d.valid
    simp only [UInt32.isValidChar, Nat.isValidChar] at hvalid
    omega
  unfold String.utf8EncodeChar
  dsimp only
  generalize c.val.toNat = m at hval
  generalize d.val.toNat = n at hval hd
  -- The leading byte tells how many follow, so characters of different lengths differ there.
  split_ifs <;>
    simp (disch := omega) only [List.cons_append, List.nil_append, List.cons_lt_cons_iff,
      UInt8.lt_iff_toNat_lt, ← UInt8.toNat_inj, UInt8.toNat_ofNat', Nat.mod_eq_of_lt] <;>
    omega

lemma flatMap_utf8EncodeChar_lt {cs ds : List Char} (h : cs < ds) :
    cs.flatMap String.utf8EncodeChar < ds.flatMap String.utf8EncodeChar := by
  induction h with
  | nil =>
    rename_i d ds
    obtain ⟨b, bs, hb⟩ := List.exists_cons_of_ne_nil (@String.utf8EncodeChar_ne_nil d)
    rw [List.flatMap_nil, List.flatMap_cons, hb, List.cons_append]
    exact List.nil_lt_cons b _
  | cons h ih =>
    rw [List.flatMap_cons, List.flatMap_cons]
    exact List.append_left_lt ih
  | rel h =>
    rw [List.flatMap_cons, List.flatMap_cons]
    exact utf8EncodeChar_append_lt h _ _

lemma bytes_lt {s t : String} (h : s < t) : bytes s < bytes t :=
  flatMap_utf8EncodeChar_lt (String.lt_iff_toList_lt.mp h)

theorem compareLex_bytes (s t : String) :
    List.compareLex compare (bytes s) (bytes t) = compare s t := by
  rcases lt_trichotomy s t with h | rfl | h
  · rw [compare_lt_iff_lt.mpr h, compareLex_eq_lt_iff]
    exact bytes_lt h
  · exact Std.ReflCmp.compare_self.trans (compare_eq_iff_eq.mpr rfl).symm
  · rw [compare_gt_iff_gt.mpr h, compareLex_eq_gt_iff]
    exact bytes_lt h

end Rollout.Text
