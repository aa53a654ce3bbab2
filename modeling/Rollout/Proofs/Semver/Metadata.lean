import Rollout.Proofs.Semver.Precedence

/-! Two normal forms that are equal settle the order before anything else is compared, but then the
parts that are compared are equal, whatever metadata the versions carry. -/

namespace Rollout.Semver

variable {a b v : Semver} {chars : List Char} {s t : String} {m n : Option String}

def withMetadata (v : Semver) (metadata : Option String) : Semver := { v with metadata }

lemma WrittenAs.withoutMetadata (h : v.WrittenAs chars) :
    (v.withMetadata none).WrittenAs (v.withMetadata none).version.toList := by
  obtain ⟨hids, -, x, y, z, hx, hy, hz, -⟩ := h
  have hwritten : (v.withMetadata none).WrittenAs
      (x ++ '.' :: (y ++ '.' :: z) ++
        ((v.withMetadata none).preReleaseText ++ (v.withMetadata none).metadataText).toList) :=
    ⟨hids, nofun, x, y, z, hx, hy, hz, rfl⟩
  exact hwritten.normalForm

lemma WrittenAs.plus_notMem (h : v.WrittenAs chars) :
    '+' ∉ (v.withMetadata none).version.toList := by
  obtain ⟨x, y, z, hx, hy, hz, htext⟩ := h.withoutMetadata.text
  have hmetadata : (v.withMetadata none).metadataText = "" := rfl
  rw [htext, hmetadata, String.append_empty, toList_preReleaseText]
  exact plus_notMem_core_dotted hx hy hz fun id hid => (h.identifiers id hid).2.2

lemma toList_version_withMetadata (v : Semver) (m : Option String) :
    (v.withMetadata m).version.toList =
      (v.withMetadata none).version.toList ++ marked '+' (m.map String.toList) := by
  have hnone : (v.withMetadata none).version = v.coreText ++ v.preReleaseText :=
    String.append_empty
  rw [hnone, version, String.toList_append, toList_metadataText]
  rfl

lemma WrittenAs.takeWhile_version (h : v.WrittenAs chars) (m : Option String) :
    (v.withMetadata m).version.toList.takeWhile (· ≠ '+') =
      (v.withMetadata none).version.toList := by
  have hbefore : ∀ c ∈ (v.withMetadata none).version.toList, decide (c ≠ '+') = true := by
    intro c hc
    apply decide_eq_true
    rintro rfl
    exact h.plus_notMem hc
  rw [toList_version_withMetadata v m, List.takeWhile_append_of_pos hbefore]
  cases m <;> simp [marked]

lemma withoutMetadata_eq (ha : parse s = .ok a) (hb : parse t = .ok b)
    (h : (a.withMetadata m).version = (b.withMetadata n).version) :
    a.withMetadata none = b.withMetadata none := by
  have ha := read?_eq_some_iff.mp (parse_eq_ok_iff.mp ha)
  have hb := read?_eq_some_iff.mp (parse_eq_ok_iff.mp hb)
  -- What stands before the first plus signs of the normal forms is the same, too.
  have hversion : (a.withMetadata none).version = (b.withMetadata none).version := by
    apply String.toList_injective
    rw [← ha.takeWhile_version m, ← hb.takeWhile_version n, h]
  exact eq_of_version_eq (read?_eq_some_iff.mpr ha.withoutMetadata)
    (read?_eq_some_iff.mpr hb.withoutMetadata) hversion

lemma partsOrder_withMetadata (a b : Semver) (m n : Option String) :
    partsOrder (a.withMetadata m) (b.withMetadata n) = partsOrder a b := rfl

lemma order_withMetadata_eq_partsOrder (ha : parse s = .ok a) (hb : parse t = .ok b)
    (m n : Option String) :
    order (a.withMetadata m) (b.withMetadata n) = partsOrder a b := by
  rw [order]
  split
  next h =>
    rw [← partsOrder_withMetadata a b none none, withoutMetadata_eq ha hb h, partsOrder_self]
  next => exact partsOrder_withMetadata a b m n

theorem order_ignores_metadata (ha : parse s = .ok a) (hb : parse t = .ok b) :
    (∀ m n, order (a.withMetadata m) (b.withMetadata n) = order a b) ∧
      order a b = partsOrder a b ∧ (a.version = b.version → partsOrder a b = .eq) := by
  have horder : order a b = partsOrder a b := order_eq_partsOrder ha hb
  refine ⟨fun m n => ?_, horder, fun h => ?_⟩
  · rw [horder, order_withMetadata_eq_partsOrder ha hb]
  · rw [← horder, order, if_pos h]

def build (number : String) : Semver := ⟨1, 0, 0, ["rc", "1"], some number⟩

theorem order_ignores_metadata_builds :
    (build "7").version ≠ (build "8").version ∧ order (build "7") (build "8") = .eq ∧
      order ((build "7").withMetadata none) (build "8") = .eq := by
  obtain ⟨hmetadata, hparts, -⟩ := order_ignores_metadata (s := "1.0.0-rc.1+7")
    (t := "1.0.0-rc.1+8") (a := build "7") (b := build "8") rfl rfl
  have horder : order (build "7") (build "8") = .eq := hparts.trans (by decide +kernel)
  exact ⟨by decide +kernel, horder, (hmetadata none (some "8")).trans horder⟩

end Rollout.Semver
