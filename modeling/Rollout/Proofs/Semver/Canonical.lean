import Rollout.Matcher.Compile
import Rollout.Proofs.Semver.NormalForm
import Rollout.Proofs.Text.Trim

namespace Rollout

lemma Text.isDigit_of_isBlank {c : Char} (h : isBlank c = true) : c.isDigit = false := by
  have hzero : '0'.val.toNat = 48 := rfl
  have hnine : '9'.val.toNat = 57 := rfl
  simp only [isBlank, Bool.or_eq_true, Bool.and_eq_true, decide_eq_true_eq, beq_iff_eq,
    Char.toNat] at h
  simp only [Char.isDigit, Bool.and_eq_false_iff, decide_eq_false_iff_not, ge_iff_le,
    UInt32.le_iff_toNat_le]
  omega

namespace Semver

variable {a b v : Semver} {chars : List Char} {s t : String} {texts : List String}

lemma WrittenAs.trim_version (h : v.WrittenAs chars)
    (hlast : ∀ c ∈ chars.getLast?, ¬ Text.isBlank c) :
    Text.trim v.version.toList = v.version.toList := by
  obtain ⟨-, -, x, y, z, hx, hy, hz, htext⟩ := h.normalForm
  obtain ⟨-, -, x', y', z', -, -, -, rfl⟩ := h
  have hcore : ∀ c ∈ x ++ '.' :: (y ++ '.' :: z), ¬ Text.isBlank c := by
    intro c hc hblank
    refine notMem_core (Text.isDigit_of_isBlank hblank) ?_ hx hy hz hc
    rintro rfl
    cases hblank
  rw [Text.trim_eq_self_iff, htext]
  -- The normal form begins with a digit, and ends as the text does or with a digit.
  constructor
  · intro c hc
    rw [List.head?_append_of_ne_nil _ (by simp)] at hc
    exact hcore c (List.mem_of_mem_head? hc)
  · intro c hc
    rw [List.getLast?_append] at hc hlast
    cases htail : (v.preReleaseText ++ v.metadataText).toList.getLast? with
    | none =>
      rw [htail, Option.none_or] at hc
      exact hcore c (List.mem_of_getLast? hc)
    | some d =>
      rw [htail, Option.some_or] at hc hlast
      exact hlast c hc

lemma parse_version (h : parse s = .ok v) : parse v.version = .ok v := by
  rw [parse_eq_ok_iff] at h ⊢
  have hlast : ∀ c ∈ (Text.trim s.toList).getLast?, ¬ Text.isBlank c := by
    simpa only [Text.isBlank_iff] using (Text.trimmed_trim s.toList).last
  rw [(read?_eq_some_iff.mp h).trim_version hlast]
  exact read?_version h

lemma version_eq_iff (ha : parse s = .ok a) (hb : parse t = .ok b) :
    a.version = b.version ↔ a.major = b.major ∧ a.minor = b.minor ∧ a.patch = b.patch ∧
      a.preRelease = b.preRelease ∧ a.metadata = b.metadata := by
  rw [← Semver.mk.injEq]
  constructor
  · exact eq_of_version_eq (parse_eq_ok_iff.mp ha) (parse_eq_ok_iff.mp hb)
  · intro h
    exact congrArg version h

lemma parse?_eq_some_iff : parse? s = some v ↔ parse s = .ok v :=
  parse_eq_ok_iff.symm

lemma contains_versionSet (texts : List String) (text : String) :
    (MatcherDefinition.versionSet texts).contains text = true ↔
      ∃ u ∈ texts, ∃ c, parse u = .ok c ∧ c.version = text := by
  simp [MatcherDefinition.versionSet, StringSet.contains_ofList, parse?_eq_some_iff]

theorem version_canonical (ha : parse s = .ok a) (hb : parse t = .ok b) :
    parse a.version = .ok a ∧
      (a.version = b.version ↔ a.major = b.major ∧ a.minor = b.minor ∧ a.patch = b.patch ∧
        a.preRelease = b.preRelease ∧ a.metadata = b.metadata) ∧
      ∀ input : MatcherInput, input.version? = some a →
        ((InputTest.equalToVersion (parse? t)).passes input = true ↔ a.version = b.version) ∧
          ∀ texts, (InputTest.amongVersions (MatcherDefinition.versionSet texts)).passes input =
            true ↔ ∃ u ∈ texts, ∃ c, parse u = .ok c ∧ c.version = a.version := by
  refine ⟨parse_version ha, version_eq_iff ha hb, fun input hinput => ⟨?_, fun texts => ?_⟩⟩
  · rw [parse?_eq_some_iff.mpr hb, InputTest.passes]
    simp only [InputTest.onVersion, hinput, beq_iff_eq]
  · rw [InputTest.passes, hinput]
    exact contains_versionSet texts a.version

def release : Semver := ⟨1, 2, 3, ["rc", "x-1"], some "a b+c"⟩

def unbuilt : Semver := ⟨1, 2, 3, ["rc", "x-1"], none⟩

theorem version_canonical_release :
    parse release.version = .ok release ∧ release.version ≠ unbuilt.version ∧
      ¬ (InputTest.equalToVersion (parse? "1.2.3-rc.x-1")).passes
          (.key " 01.2.003-rc.x-1+a b+c ") = true := by
  obtain ⟨hparse, hversion, hmatch⟩ := version_canonical (s := " 01.2.003-rc.x-1+a b+c ")
    (t := "1.2.3-rc.x-1") (a := release) (b := unbuilt) rfl rfl
  have hne : release.version ≠ unbuilt.version := by
    rw [ne_eq, hversion]
    decide
  exact ⟨hparse, hne, fun h => hne ((hmatch (.key " 01.2.003-rc.x-1+a b+c ") rfl).1.mp h)⟩

end Semver

end Rollout
