import Rollout.Proofs.Semver.NormalForm
import Rollout.Proofs.Text.Trim

/-! A text is a version just when the grammar derives what is left of it without the white space at
its ends, and any other text is handed back as it was given. -/

namespace Rollout

namespace Text

structure IsNumber64 (digits : String) : Prop where
  nonempty : digits ≠ ""
  digit : ∀ c ∈ digits.toList, '0' ≤ c ∧ c ≤ '9'
  fits : Nat.ofDigitChars 10 digits.toList 0 < UInt64.size

lemma isNumeral_iff {s : List Char} :
    isNumeral s = true ↔ s ≠ [] ∧ ∀ c ∈ s, '0' ≤ c ∧ c ≤ '9' := by
  simp [isNumeral, Char.isDigit, Char.le_def]

lemma number64?_eq_some_iff {digits : String} {n : Nat} :
    number64? digits.toList = some n ↔
      IsNumber64 digits ∧ Nat.ofDigitChars 10 digits.toList 0 = n := by
  have hvalue : ofDigits digits.toList = Nat.ofDigitChars 10 digits.toList 0 := rfl
  rw [number64?, hvalue, Option.ite_none_right_eq_some, Option.some.injEq, isNumeral_iff]
  constructor
  · rintro ⟨⟨⟨hne, hdigit⟩, hfits⟩, hn⟩
    exact ⟨⟨mt String.toList_eq_nil_iff.mpr hne, hdigit, hfits⟩, hn⟩
  · rintro ⟨⟨hne, hdigit, hfits⟩, hn⟩
    exact ⟨⟨⟨mt String.toList_eq_nil_iff.mp hne, hdigit⟩, hfits⟩, hn⟩

lemma exists_isNumber64 {s : List Char} {n : Nat} (h : number64? s = some n) :
    ∃ digits : String, digits.toList = s ∧ IsNumber64 digits ∧
      Nat.ofDigitChars 10 digits.toList 0 = n := by
  refine ⟨String.ofList s, String.toList_ofList, number64?_eq_some_iff.mp ?_⟩
  rw [String.toList_ofList, h]

end Text

namespace Semver

structure Written where
  major : String
  minor : String
  patch : String
  identifiers : List String
  metadata : Option String

namespace Written

def text (w : Written) : String :=
  w.major ++ "." ++ w.minor ++ "." ++ w.patch ++
    (if w.identifiers = [] then "" else "-" ++ String.intercalate "." w.identifiers) ++
      match w.metadata with
      | none => ""
      | some metadata => "+" ++ metadata

structure WellFormed (w : Written) : Prop where
  major : Text.IsNumber64 w.major
  minor : Text.IsNumber64 w.minor
  patch : Text.IsNumber64 w.patch
  identifiers : ∀ id ∈ w.identifiers, id ≠ "" ∧ '.' ∉ id.toList ∧ '+' ∉ id.toList
  metadata : w.metadata ≠ some ""

def version (w : Written) : Semver where
  major := Nat.ofDigitChars 10 w.major.toList 0
  minor := Nat.ofDigitChars 10 w.minor.toList 0
  patch := Nat.ofDigitChars 10 w.patch.toList 0
  preRelease := w.identifiers
  metadata := w.metadata

lemma toList_text (w : Written) :
    w.text.toList = w.major.toList ++ '.' :: (w.minor.toList ++ '.' :: w.patch.toList) ++
      (w.version.preReleaseText ++ w.version.metadataText).toList := by
  obtain ⟨major, minor, patch, identifiers, metadata⟩ := w
  cases identifiers <;> cases metadata <;>
    simp [text, version, preReleaseText, metadataText]

end Written

variable {v : Semver} {s : List Char}

lemma writtenAs_iff :
    v.WrittenAs s ↔ ∃ w : Written, w.WellFormed ∧ w.text.toList = s ∧ w.version = v := by
  constructor
  · rintro ⟨hids, hmetadata, x, y, z, hx, hy, hz, rfl⟩
    obtain ⟨x, rfl, hx, hmajor⟩ := Text.exists_isNumber64 hx
    obtain ⟨y, rfl, hy, hminor⟩ := Text.exists_isNumber64 hy
    obtain ⟨z, rfl, hz, hpatch⟩ := Text.exists_isNumber64 hz
    have hversion : Written.version ⟨x, y, z, v.preRelease, v.metadata⟩ = v := by
      rw [Written.version, hmajor, hminor, hpatch]
    refine ⟨⟨x, y, z, v.preRelease, v.metadata⟩, ⟨hx, hy, hz, hids, hmetadata⟩, ?_, hversion⟩
    rw [Written.toList_text, hversion]
  · rintro ⟨w, hw, rfl, rfl⟩
    refine ⟨hw.identifiers, hw.metadata, _, _, _, ?_, ?_, ?_, w.toList_text⟩
    · exact Text.number64?_eq_some_iff.mpr ⟨hw.major, rfl⟩
    · exact Text.number64?_eq_some_iff.mpr ⟨hw.minor, rfl⟩
    · exact Text.number64?_eq_some_iff.mpr ⟨hw.patch, rfl⟩

lemma read?_eq_some_iff_written :
    read? s = some v ↔ ∃ w : Written, w.WellFormed ∧ w.text.toList = s ∧ w.version = v :=
  read?_eq_some_iff.trans writtenAs_iff

lemma parse_eq_error_iff {text : String} {e : InvalidVersion} :
    parse text = .error e ↔ e = ⟨text⟩ ∧ ∀ v, parse text ≠ .ok v := by
  cases h : parse text with
  | ok v => simp
  | error f =>
    rw [parse] at h
    split at h
    next => cases h
    next =>
      cases h
      simp [eq_comm]

theorem parse_iff_written (text : String) :
    (∀ v, parse text = .ok v ↔
      ∃ w : Written, w.WellFormed ∧ Text.Trimmed text.toList w.text.toList ∧ w.version = v) ∧
    ∀ e, parse text = .error e ↔
      e = ⟨text⟩ ∧ ¬ ∃ w : Written, w.WellFormed ∧ Text.Trimmed text.toList w.text.toList := by
  have hok (v) : parse text = .ok v ↔
      ∃ w : Written, w.WellFormed ∧ Text.Trimmed text.toList w.text.toList ∧ w.version = v := by
    simp only [parse_eq_ok_iff, read?_eq_some_iff_written, ← Text.trim_eq_iff,
      eq_comm (a := Text.trim text.toList)]
  refine ⟨hok, fun e => ?_⟩
  rw [parse_eq_error_iff]
  refine and_congr_right fun _ => ?_
  simp only [ne_eq, hok]
  constructor
  · rintro h ⟨w, hw, htext⟩
    exact h w.version ⟨w, hw, htext, rfl⟩
  · rintro h v ⟨w, hw, htext, -⟩
    exact h ⟨w, hw, htext⟩

end Semver

end Rollout
