import Rollout.Proofs.Traversal
import Rollout.Semver

namespace Rollout

namespace Text

variable {sep : Char} {s a b : List Char}

lemma cutAt?_append (h : sep ∉ a) : cutAt? sep (a ++ sep :: b) = some (a, b) := by
  induction a with
  | nil => simp [cutAt?]
  | cons c a ih =>
    obtain ⟨hc, ha⟩ := not_or.mp (mt List.mem_cons.mpr h)
    rw [List.cons_append, cutAt?, if_neg (Ne.symm hc), ih ha, Option.map_some]

lemma notMem_of_cutAt? (h : cutAt? sep s = some (a, b)) : sep ∉ a := by
  induction s generalizing a with
  | nil => simp [cutAt?] at h
  | cons c s ih =>
    rw [cutAt?] at h
    split at h
    next =>
      cases h
      exact List.not_mem_nil
    next hc =>
      obtain ⟨⟨p, q⟩, hp, he⟩ := Option.map_eq_some_iff.mp h
      cases he
      exact List.not_mem_cons_of_ne_of_not_mem (Ne.symm hc) (ih hp)

lemma cutAt?_eq_some_iff : cutAt? sep s = some (a, b) ↔ sep ∉ a ∧ s = a ++ sep :: b := by
  constructor
  · exact fun h => ⟨notMem_of_cutAt? h, append_of_cutAt? h⟩
  · rintro ⟨ha, rfl⟩
    exact cutAt?_append ha

lemma pieces_eq_splitOn (sep : Char) (s : List Char) : pieces sep s = s.splitOn sep := by
  induction s with
  | nil => simp [pieces]
  | cons c s ih =>
    have hcons : (c :: s).splitOn sep =
        if c = sep then [] :: s.splitOn sep else (s.splitOn sep).modifyHead (c :: ·) := by
      rw [List.splitOn, List.splitOnP_cons_eq_if_modifyHead, ← List.splitOn]
      simp only [beq_iff_eq]
    rw [hcons, pieces, ih]
    cases hs : s.splitOn sep with
    | nil => exact absurd hs (List.splitOn_ne_nil sep s)
    | cons p ps => rfl

lemma notMem_of_mem_pieces (h : a ∈ pieces sep s) : sep ∉ a := by
  induction s generalizing a with
  | nil =>
    rw [pieces, List.mem_singleton] at h
    exact h ▸ List.not_mem_nil
  | cons c s ih =>
    rw [pieces] at h
    split at h
    next =>
      rcases List.mem_cons.mp h with rfl | h
      · exact List.not_mem_nil
      · exact ih h
    next hc =>
      cases hs : pieces sep s with
      | nil => exact absurd hs (pieces_ne_nil sep s)
      | cons p ps =>
        rw [hs] at h ih
        rcases List.mem_cons.mp h with rfl | h
        · exact List.not_mem_cons_of_ne_of_not_mem (Ne.symm hc) (ih List.mem_cons_self)
        · exact ih (List.mem_cons_of_mem p h)

lemma pieces_eq_iff {parts : List (List Char)} :
    pieces sep s = parts ↔ parts ≠ [] ∧ (∀ p ∈ parts, sep ∉ p) ∧ s = [sep].intercalate parts := by
  constructor
  · rintro rfl
    refine ⟨pieces_ne_nil sep s, fun p => notMem_of_mem_pieces, ?_⟩
    rw [pieces_eq_splitOn, List.intercalate_splitOn]
  · rintro ⟨hne, hparts, rfl⟩
    rw [pieces_eq_splitOn, List.splitOn_intercalate sep hparts hne]

lemma notMem_intercalate_iff {c : Char} (hc : c ≠ sep) {parts : List (List Char)} :
    c ∉ [sep].intercalate parts ↔ ∀ p ∈ parts, c ∉ p := by
  induction parts with
  | nil => simp
  | cons p parts ih =>
    cases parts with
    | nil => simp
    | cons q parts =>
      rw [List.intercalate_cons_cons, List.forall_mem_cons, ← ih]
      simp [hc]

lemma isDigit_of_number64? {n : Nat} {c : Char} (h : number64? s = some n) (hc : c ∈ s) :
    c.isDigit = true := by
  rw [number64?] at h
  split at h
  next hs =>
    rw [isNumeral, Bool.and_eq_true, List.all_eq_true] at hs
    exact hs.1.2 c hc
  next => cases h

lemma number64?_lt {n : Nat} (h : number64? s = some n) : n < UInt64.size := by
  rw [number64?] at h
  split at h
  next hs =>
    cases h
    exact hs.2
  next => cases h

lemma number64?_toDigits {n : Nat} (h : n < UInt64.size) :
    number64? (Nat.toDigits 10 n) = some n := by
  have hvalue : ofDigits (Nat.toDigits 10 n) = n :=
    Nat.ofDigitChars_toDigits (by decide) (by decide)
  have hnumeral : isNumeral (Nat.toDigits 10 n) = true := by
    rw [isNumeral, Bool.and_eq_true, List.all_eq_true, Bool.not_eq_true', List.isEmpty_eq_false_iff]
    exact ⟨Nat.toDigits_ne_nil, fun c => Nat.isDigit_of_mem_toDigits (by decide) (by decide)⟩
  rw [number64?, hvalue, if_pos ⟨hnumeral, h⟩]

end Text

namespace Semver

variable {s a : List Char} {part : Option (List Char)} {v w : Semver}

def marked (sep : Char) : Option (List Char) → List Char
  | none => []
  | some part => sep :: part

lemma optionalPart?_append {sep : Char} (ha : sep ∉ a) (hpart : part ≠ some []) :
    optionalPart? sep (a ++ marked sep part) = some (a, part) := by
  rw [optionalPart?]
  cases part with
  | none => rw [marked, List.append_nil, Text.cutAt?_eq_none_iff.mpr ha]
  | some part =>
    rw [marked, Text.cutAt?_append ha]
    cases part with
    | nil => exact absurd rfl hpart
    | cons c part => rfl

lemma optionalPart?_eq_some_iff {sep : Char} :
    optionalPart? sep s = some (a, part) ↔
      sep ∉ a ∧ part ≠ some [] ∧ s = a ++ marked sep part := by
  constructor
  · intro h
    rw [optionalPart?] at h
    split at h
    next hnone =>
      cases h
      exact ⟨Text.cutAt?_eq_none_iff.mp hnone, nofun, (List.append_nil s).symm⟩
    next => cases h
    next before after hne hcut =>
      cases h
      obtain ⟨ha, hs⟩ := Text.cutAt?_eq_some_iff.mp hcut
      refine ⟨ha, ?_, hs⟩
      rintro ⟨⟩
      exact hne rfl
  · rintro ⟨ha, hpart, rfl⟩
    exact optionalPart?_append ha hpart

def dotted (ids : List String) : Option (List Char) :=
  if ids = [] then none else some (['.'].intercalate (ids.map String.toList))

lemma plus_notMem_dotted {ids : List String} :
    '+' ∉ marked '-' (dotted ids) ↔ ∀ id ∈ ids, '+' ∉ id.toList := by
  cases ids with
  | nil => simp [dotted, marked]
  | cons id ids =>
    rw [dotted, if_neg (List.cons_ne_nil id ids), marked, List.mem_cons, not_or,
      and_iff_right (by decide), Text.notMem_intercalate_iff (by decide), List.forall_mem_map]

lemma dotted_ne_some_nil {ids : List String} (h : ∀ id ∈ ids, id ≠ "") : dotted ids ≠ some [] := by
  rcases ids with _ | ⟨id, _ | ⟨next, ids⟩⟩
  · nofun
  · simpa [dotted] using h
  · simp [dotted, List.intercalate_cons_cons]

lemma identifiers?_dotted {ids : List String} (h : ∀ id ∈ ids, id ≠ "" ∧ '.' ∉ id.toList) :
    identifiers? (dotted ids) = some ids := by
  cases ids with
  | nil => rfl
  | cons id ids =>
    have hpieces : Text.pieces '.' (['.'].intercalate ((id :: ids).map String.toList)) =
        (id :: ids).map String.toList :=
      Text.pieces_eq_iff.mpr
        ⟨List.cons_ne_nil _ _, List.forall_mem_map.mpr fun i hi => (h i hi).2, rfl⟩
    have hany : ((id :: ids).map String.toList).any List.isEmpty = false :=
      List.any_eq_false.mpr (List.forall_mem_map.mpr fun i hi hempty =>
        (h i hi).1 (String.toList_eq_nil_iff.mp (List.isEmpty_iff.mp hempty)))
    rw [dotted, if_neg (List.cons_ne_nil id ids), identifiers?, hpieces, hany,
      if_neg Bool.false_ne_true, List.map_map]
    simp

lemma identifiers?_eq_some_iff {ids : List String} :
    identifiers? part = some ids ↔
      (∀ id ∈ ids, id ≠ "" ∧ '.' ∉ id.toList) ∧ part = dotted ids := by
  constructor
  · intro h
    cases part with
    | none =>
      cases h
      exact ⟨nofun, rfl⟩
    | some s =>
      rw [identifiers?] at h
      split at h
      next => cases h
      next hany =>
        cases h
        rw [Bool.not_eq_true, List.any_eq_false] at hany
        constructor
        · refine List.forall_mem_map.mpr fun p hp => ⟨?_, ?_⟩
          · intro he
            exact hany p hp (List.isEmpty_iff.mpr (by simpa using congrArg String.toList he))
          · rw [String.toList_ofList]
            exact Text.notMem_of_mem_pieces hp
        · rw [dotted, if_neg (mt List.map_eq_nil_iff.mp (Text.pieces_ne_nil '.' s)), List.map_map,
            String.toList_comp_ofList, List.map_id, ← (Text.pieces_eq_iff.mp rfl).2.2]
  · rintro ⟨hids, rfl⟩
    exact identifiers?_dotted hids

lemma point_notMem_of_number64? {n : Nat} (h : Text.number64? a = some n) : '.' ∉ a :=
  fun hpoint => absurd (Text.isDigit_of_number64? h hpoint) (by decide)

lemma core?_eq_some_iff {major minor patch : Nat} :
    core? s = some (major, minor, patch) ↔
      ∃ x y z, Text.number64? x = some major ∧ Text.number64? y = some minor ∧
        Text.number64? z = some patch ∧ s = x ++ '.' :: (y ++ '.' :: z) := by
  constructor
  · intro h
    rw [core?] at h
    split at h
    next m n k hnumbers =>
      cases h
      obtain ⟨x, xs, hx, hxs, hpieces⟩ := List.forall₂_cons_right_iff.mp (forall₂_of_mapM hnumbers)
      obtain ⟨y, ys, hy, hys, rfl⟩ := List.forall₂_cons_right_iff.mp hxs
      obtain ⟨z, zs, hz, hzs, rfl⟩ := List.forall₂_cons_right_iff.mp hys
      obtain rfl := List.forall₂_nil_right_iff.mp hzs
      refine ⟨x, y, z, hx, hy, hz, ?_⟩
      rw [(Text.pieces_eq_iff.mp hpieces).2.2]
      simp [List.intercalate_cons_cons]
    next => cases h
  · rintro ⟨x, y, z, hx, hy, hz, rfl⟩
    have hpieces : Text.pieces '.' (x ++ '.' :: (y ++ '.' :: z)) = [x, y, z] := by
      refine Text.pieces_eq_iff.mpr ⟨List.cons_ne_nil _ _, ?_, by simp [List.intercalate_cons_cons]⟩
      simp [point_notMem_of_number64? hx, point_notMem_of_number64? hy, point_notMem_of_number64? hz]
    rw [core?, hpieces]
    simp [hx, hy, hz]

/-- The text of a version. Only the numbers leave a choice, in the zeros before them. -/
structure WrittenAs (v : Semver) (s : List Char) : Prop where
  identifiers : ∀ id ∈ v.preRelease, id ≠ "" ∧ '.' ∉ id.toList ∧ '+' ∉ id.toList
  metadata : v.metadata ≠ some ""
  text : ∃ x y z, Text.number64? x = some v.major ∧ Text.number64? y = some v.minor ∧
    Text.number64? z = some v.patch ∧
    s = x ++ '.' :: (y ++ '.' :: z) ++ (v.preReleaseText ++ v.metadataText).toList

lemma toList_preReleaseText (v : Semver) :
    v.preReleaseText.toList = marked '-' (dotted v.preRelease) := by
  cases h : v.preRelease with
  | nil => simp [preReleaseText, dotted, marked, h]
  | cons id ids =>
    rw [preReleaseText, h, dotted, if_neg (List.cons_ne_nil id ids), marked, List.isEmpty_cons,
      if_neg Bool.false_ne_true, String.toList_append, String.toList_intercalate]
    rfl

lemma toList_metadataText (v : Semver) :
    v.metadataText.toList = marked '+' (v.metadata.map String.toList) := by
  cases h : v.metadata with
  | none => simp [metadataText, marked, h]
  | some metadata => simp [metadataText, marked, h]

lemma notMem_core {c : Char} (hdigit : c.isDigit = false) (hpoint : c ≠ '.') {x y z : List Char}
    {major minor patch : Nat} (hx : Text.number64? x = some major)
    (hy : Text.number64? y = some minor) (hz : Text.number64? z = some patch) :
    c ∉ x ++ '.' :: (y ++ '.' :: z) := by
  have hnumber {s n} (h : Text.number64? s = some n) : c ∉ s := fun hc => by
    rw [Text.isDigit_of_number64? h hc] at hdigit
    cases hdigit
  simp [hnumber hx, hnumber hy, hnumber hz, hpoint]

lemma plus_notMem_core_dotted {x y z : List Char} {major minor patch : Nat} {ids : List String}
    (hx : Text.number64? x = some major) (hy : Text.number64? y = some minor)
    (hz : Text.number64? z = some patch) (hids : ∀ id ∈ ids, '+' ∉ id.toList) :
    '+' ∉ x ++ '.' :: (y ++ '.' :: z) ++ marked '-' (dotted ids) := by
  rw [List.mem_append, not_or, plus_notMem_dotted]
  exact ⟨notMem_core rfl (by decide) hx hy hz, hids⟩

lemma read?_eq_some_iff : read? s = some v ↔ v.WrittenAs s := by
  constructor
  · intro h
    simp only [read?, Option.bind_eq_bind, Option.bind_eq_some_iff] at h
    obtain ⟨⟨t, metadata⟩, hs, ⟨core, part⟩, hcut, ids, hread, ⟨major, minor, patch⟩, hcore, hv⟩ :=
      h
    cases hv
    obtain ⟨ht, hmetadata, rfl⟩ := optionalPart?_eq_some_iff.mp hs
    obtain ⟨-, -, rfl⟩ := optionalPart?_eq_some_iff.mp hcut
    obtain ⟨hids, rfl⟩ := identifiers?_eq_some_iff.mp hread
    obtain ⟨x, y, z, hx, hy, hz, rfl⟩ := core?_eq_some_iff.mp hcore
    have hplus := plus_notMem_dotted.mp fun h => ht (List.mem_append_right _ h)
    refine ⟨fun id hid => ⟨(hids id hid).1, (hids id hid).2, hplus id hid⟩, ?_,
      x, y, z, hx, hy, hz, ?_⟩
    · cases metadata with
      | none => nofun
      | some metadata => simpa using hmetadata
    · rw [String.toList_append, toList_preReleaseText, toList_metadataText, Option.map_map,
        String.toList_comp_ofList, Option.map_id, id, List.append_assoc]
  · rintro ⟨hids, hmetadata, x, y, z, hx, hy, hz, rfl⟩
    have hminus := notMem_core (c := '-') rfl (by decide) hx hy hz
    have hplus := plus_notMem_core_dotted hx hy hz fun id hid => (hids id hid).2.2
    have hdotted := dotted_ne_some_nil fun id hid => (hids id hid).1
    rw [String.toList_append, toList_preReleaseText, toList_metadataText, ← List.append_assoc, read?,
      optionalPart?_append hplus (by simpa using hmetadata)]
    simp only [Option.bind_eq_bind, Option.bind_some, optionalPart?_append hminus hdotted,
      identifiers?_dotted fun id hid => ⟨(hids id hid).1, (hids id hid).2.1⟩,
      core?_eq_some_iff.mpr ⟨x, y, z, hx, hy, hz, rfl⟩]
    simp

lemma WrittenAs.normalForm (h : v.WrittenAs s) : v.WrittenAs v.version.toList := by
  obtain ⟨hids, hmetadata, x, y, z, hx, hy, hz, -⟩ := h
  refine ⟨hids, hmetadata, _, _, _, Text.number64?_toDigits (Text.number64?_lt hx),
    Text.number64?_toDigits (Text.number64?_lt hy), Text.number64?_toDigits (Text.number64?_lt hz),
    ?_⟩
  simp [version, coreText]

lemma read?_version (h : read? s = some v) : read? v.version.toList = some v :=
  read?_eq_some_iff.mpr (read?_eq_some_iff.mp h).normalForm

lemma eq_of_version_eq {t : List Char} (hv : read? s = some v) (hw : read? t = some w)
    (h : v.version = w.version) : v = w := by
  have hv := read?_version hv
  rw [h, read?_version hw] at hv
  exact (Option.some.inj hv).symm

lemma parse_eq_ok_iff {text : String} :
    parse text = .ok v ↔ read? (Text.trim text.toList) = some v := by
  rw [parse]
  cases read? (Text.trim text.toList) <;> simp

end Semver

end Rollout
