import Rollout.Proofs.Semver.Precedence
import Rollout.Proofs.Text.ByteOrder

/-! The plain rule for the order of versions, in which numbers have no limit and identifiers that
compare equal leave the decision to those after them. -/

namespace Rollout.Semver

section Identifiers

variable {x y : String} {as bs : List String}

def plainIdentifierOrder (x y : String) : Ordering :=
  if IsNumeral x ∧ IsNumeral y then compare (numeralValue x) (numeralValue y)
  else List.compareLex compare (Text.bytes x) (Text.bytes y)

def firstDifferent? : List String → List String → Option (String × String)
  | a :: as, b :: bs => if a = b then firstDifferent? as bs else some (a, b)
  | _, _ => none

lemma plainNumbers_pair (hx : numeralValue x < UInt64.size) (hy : numeralValue y < UInt64.size)
    (hne : numeralValue x ≠ numeralValue y) : PlainNumbers [x, y] where
  fits := by simp [hx, hy]
  inj := by simp [hne, hne.symm]

lemma identifierOrder_of_numerals (hx : IsNumeral x) (hy : IsNumeral y) :
    identifierOrder x y =
      if numeralValue x < UInt64.size ∧ numeralValue y < UInt64.size then
        compare (numeralValue x) (numeralValue y)
      else List.compareLex compare (Text.bytes x) (Text.bytes y) := by
  rw [identifierOrder, number64?_of_numeral hx, number64?_of_numeral hy, Text.compareLex_bytes]
  by_cases hfx : numeralValue x < UInt64.size <;> by_cases hfy : numeralValue y < UInt64.size <;>
    simp [hfx, hfy]

lemma identifierOrder_eq_plain (h : IsNumeral x → IsNumeral y → PlainNumbers [x, y]) :
    identifierOrder x y = plainIdentifierOrder x y := by
  rw [plainIdentifierOrder]
  split
  next hn =>
    rw [(h hn.1 hn.2).identifierOrder_eq (by simp) (by simp), if_pos hn]
  next hn => rw [identifierOrder_of_not hn, Text.compareLex_bytes]

lemma plainIdentifierOrder_self (x : String) : plainIdentifierOrder x x = .eq := by
  rw [plainIdentifierOrder]
  split
  · exact compare_eq_iff_eq.mpr rfl
  · exact Std.ReflCmp.compare_self

lemma plainIdentifierOrder_ne_eq (hne : x ≠ y)
    (h : IsNumeral x → IsNumeral y → PlainNumbers [x, y]) : plainIdentifierOrder x y ≠ .eq := by
  rw [plainIdentifierOrder]
  split
  next hn =>
    intro heq
    exact hne ((h hn.1 hn.2).inj x (by simp) y (by simp) hn.1 hn.2 (compare_eq_iff_eq.mp heq))
  next =>
    rw [Text.compareLex_bytes]
    exact mt compare_eq_iff_eq.mp hne

lemma identifiersOrder_eq_plain
    (h : ∀ x y, firstDifferent? as bs = some (x, y) → IsNumeral x → IsNumeral y →
      PlainNumbers [x, y]) :
    identifiersOrder as bs = List.compareLex plainIdentifierOrder as bs := by
  -- Before the first different texts both rules go on, so only these two need to be plain.
  induction as generalizing bs with
  | nil => cases bs <;> rfl
  | cons a as ih =>
    cases bs with
    | nil => exact identifiersOrder_cons_nil a as
    | cons b bs =>
      rw [identifiersOrder, List.compareLex_cons_cons]
      rw [firstDifferent?] at h
      split at h
      next hab =>
        subst hab
        rw [if_pos rfl, plainIdentifierOrder_self, Ordering.eq_then, ih h]
      next hab =>
        have hplain := h a b rfl
        rw [if_neg hab, identifierOrder_eq_plain hplain]
        cases hord : plainIdentifierOrder a b with
        | lt => rfl
        | eq => exact absurd hord (plainIdentifierOrder_ne_eq hab hplain)
        | gt => rfl

lemma identifiersOrder_of_firstDifferent? (h : firstDifferent? as bs = some (x, y)) :
    identifiersOrder as bs = identifierOrder x y := by
  fun_induction firstDifferent? as bs with
  | case1 as b bs ih => rw [identifiersOrder, if_pos rfl, ih h]
  | case2 a as b bs hab =>
    cases h
    rw [identifiersOrder, if_neg hab]
  | case3 => cases h

end Identifiers

section Versions

variable {a b : Semver} {s t x y : String}

def plainOrder (a b : Semver) : Ordering :=
  (compare a.major b.major).then <| (compare a.minor b.minor).then <|
    (compare a.patch b.patch).then <| (compare a.isStable b.isStable).then <|
      List.compareLex plainIdentifierOrder a.preRelease b.preRelease

def parted? (a b : Semver) : Option (String × String) :=
  if a.core = b.core then firstDifferent? a.preRelease b.preRelease else none

lemma preReleaseOrder_eq_plain
    (h : identifiersOrder a.preRelease b.preRelease =
      List.compareLex plainIdentifierOrder a.preRelease b.preRelease) :
    preReleaseOrder a b = (compare a.isStable b.isStable).then
      (List.compareLex plainIdentifierOrder a.preRelease b.preRelease) := by
  rw [preReleaseOrder]
  cases a.isStable with
  | false =>
    cases b.isStable with
    | false => exact h
    | true => rfl
  | true =>
    cases b.isStable with
    | false => rfl
    | true => exact h

lemma partsOrder_eq_plain
    (h : ∀ x y, parted? a b = some (x, y) → IsNumeral x → IsNumeral y → PlainNumbers [x, y]) :
    partsOrder a b = plainOrder a b := by
  have hplain : plainOrder a b = (coreOrder a b).then ((compare a.isStable b.isStable).then
      (List.compareLex plainIdentifierOrder a.preRelease b.preRelease)) := by
    rw [plainOrder, coreOrder, Ordering.then_assoc, Ordering.then_assoc]
  rw [hplain, partsOrder]
  by_cases hcore : a.core = b.core
  · rw [parted?, if_pos hcore] at h
    rw [preReleaseOrder_eq_plain (identifiersOrder_eq_plain h)]
  · cases hord : coreOrder a b with
    | lt => rfl
    | eq => exact absurd (coreOrder_eq_iff.mp hord) hcore
    | gt => rfl

lemma preReleaseOrder_of_firstDifferent?
    (h : firstDifferent? a.preRelease b.preRelease = some (x, y)) :
    preReleaseOrder a b = identifierOrder x y := by
  rw [preReleaseOrder, isStable, isStable, identifiersOrder_of_firstDifferent? h]
  -- A version without identifiers has none that differ.
  cases ha : a.preRelease with
  | nil =>
    rw [ha] at h
    cases h
  | cons _ _ =>
    cases hb : b.preRelease with
    | nil =>
      rw [ha, hb] at h
      cases h
    | cons _ _ => rfl

lemma partsOrder_of_parted? (h : parted? a b = some (x, y)) :
    partsOrder a b = identifierOrder x y := by
  obtain ⟨hcore, hparted⟩ := Option.ite_none_right_eq_some.mp h
  rw [partsOrder, coreOrder_eq_iff.mpr hcore, Ordering.eq_then,
    preReleaseOrder_of_firstDifferent? hparted]

theorem order_eq_plainOrder_unless (ha : parse s = .ok a) (hb : parse t = .ok b) :
    ((∀ x y, parted? a b = some (x, y) → IsNumeral x → IsNumeral y → PlainNumbers [x, y]) →
      order a b = plainOrder a b) ∧
    ∀ x y, parted? a b = some (x, y) → IsNumeral x → IsNumeral y → ¬ PlainNumbers [x, y] →
      order a b =
        if numeralValue x < UInt64.size ∧ numeralValue y < UInt64.size then .eq
        else List.compareLex compare (Text.bytes x) (Text.bytes y) := by
  rw [order_eq_partsOrder ha hb]
  refine ⟨partsOrder_eq_plain, fun x y hparted hx hy hlimits => ?_⟩
  rw [partsOrder_of_parted? hparted, identifierOrder_of_numerals hx hy]
  split
  next hfits =>
    refine compare_eq_iff_eq.mpr (not_not.mp fun hne => ?_)
    exact hlimits (plainNumbers_pair hfits.1 hfits.2 hne)
  next => rfl

theorem order_eq_plainOrder_unless_candidates :
    order (candidate "10") (candidate "9") = plainOrder (candidate "10") (candidate "9") ∧
      order (candidate "01") (candidate "1") = .eq := by
  obtain ⟨hplain, -⟩ := order_eq_plainOrder_unless (s := "1.0.0-rc.10") (t := "1.0.0-rc.9")
    (a := candidate "10") (b := candidate "9") rfl rfl
  obtain ⟨-, hzeros⟩ := order_eq_plainOrder_unless (s := "1.0.0-rc.01") (t := "1.0.0-rc.1")
    (a := candidate "01") (b := candidate "1") rfl rfl
  refine ⟨hplain fun x y hparted hx hy => ?_, ?_⟩
  · have hids : "10" = x ∧ "9" = y := by
      simpa [parted?, core, candidate, firstDifferent?] using hparted
    obtain ⟨rfl, rfl⟩ := hids
    decide +kernel
  · exact hzeros "01" "1" rfl (by decide +kernel) (by decide +kernel) (by decide +kernel)

theorem order_ne_plainOrder :
    (∃ a b, parse "1.0.0-01.2" = .ok a ∧ parse "1.0.0-1.1" = .ok b ∧
      order a b = .eq ∧ plainOrder a b = .gt) ∧
    ∃ a b, parse "1.0.0-18446744073709551616" = .ok a ∧ parse "1.0.0-9" = .ok b ∧
      order a b = .lt ∧ plainOrder a b = .gt :=
  ⟨⟨⟨1, 0, 0, ["01", "2"], none⟩, ⟨1, 0, 0, ["1", "1"], none⟩, rfl, rfl, by decide +kernel,
      by decide +kernel⟩,
    ⟨1, 0, 0, ["18446744073709551616"], none⟩, ⟨1, 0, 0, ["9"], none⟩, rfl, rfl, by decide +kernel,
      by decide +kernel⟩

end Versions

end Rollout.Semver
