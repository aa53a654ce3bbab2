import Mathlib.Data.String.Basic
import Mathlib.Order.Compare
import Mathlib.Tactic.MkIffOfInductiveProp
import Rollout.Proofs.Semver.NormalForm

/-! The order of versions is transitive but where a text stands between two numerals that are in the
opposite order by value. -/

namespace Rollout.Semver

section Identifiers

variable {x y z p q r : String} {ids as bs cs : List String}

def IsNumeral (id : String) : Prop := Text.isNumeral id.toList = true

instance (id : String) : Decidable (IsNumeral id) := inferInstanceAs (Decidable (_ = true))

def numeralValue (id : String) : Nat := Text.ofDigits id.toList

/-- Any two different numerals fit 64 bits and have different values. -/
@[mk_iff]
structure PlainNumbers (ids : List String) : Prop where
  fits : ∀ x ∈ ids, ∀ y ∈ ids, IsNumeral x → IsNumeral y → x ≠ y → numeralValue x < UInt64.size
  inj : ∀ x ∈ ids, ∀ y ∈ ids, IsNumeral x → IsNumeral y → numeralValue x = numeralValue y → x = y

/-- A text between two numerals of which the one that comes first as a text has the greater value. -/
@[mk_iff]
structure Wedge (m text n : String) : Prop where
  left : IsNumeral m
  middle : ¬ IsNumeral text
  right : IsNumeral n
  textFrom : m < text
  textTo : text < n
  values : numeralValue n < numeralValue m

def Wedged (ids : List String) : Prop :=
  ∃ m ∈ ids, ∃ text ∈ ids, ∃ n ∈ ids, Wedge m text n

instance : Decidable (PlainNumbers ids) :=
  decidable_of_iff _ (plainNumbers_iff ids).symm

instance : Decidable (Wedge p r q) :=
  decidable_of_iff _ (wedge_iff p r q).symm

instance : Decidable (Wedged ids) :=
  inferInstanceAs (Decidable (∃ m ∈ ids, ∃ text ∈ ids, ∃ n ∈ ids, Wedge m text n))

def partingIdentifiers : List String → List String → List String → List String
  | a :: as, b :: bs, c :: cs => if a = b ∧ b = c then partingIdentifiers as bs cs else [a, b, c]
  | _, _, _ => []

lemma number64?_of_numeral (h : IsNumeral x) :
    Text.number64? x.toList =
      if numeralValue x < UInt64.size then some (numeralValue x) else none := by
  rw [Text.number64?, numeralValue]
  simp only [show Text.isNumeral x.toList = true from h, true_and]

lemma number64?_of_not_numeral (h : ¬ IsNumeral x) : Text.number64? x.toList = none := by
  rw [Text.number64?, if_neg fun hfits => h hfits.1]

lemma identifierOrder_of_not (h : ¬ (IsNumeral x ∧ IsNumeral y)) :
    identifierOrder x y = compare x y := by
  rw [identifierOrder]
  by_cases hx : IsNumeral x
  · rw [number64?_of_not_numeral fun hy => h ⟨hx, hy⟩]
    cases Text.number64? x.toList <;> rfl
  · rw [number64?_of_not_numeral hx]

lemma identifierOrder_self (x : String) : identifierOrder x x = .eq := by
  rw [identifierOrder]
  cases Text.number64? x.toList <;> exact compare_eq_iff_eq.mpr rfl

lemma PlainNumbers.identifierOrder_eq (h : PlainNumbers ids) (hx : x ∈ ids) (hy : y ∈ ids) :
    identifierOrder x y =
      if IsNumeral x ∧ IsNumeral y then compare (numeralValue x) (numeralValue y) else compare x y := by
  split
  next hn =>
    by_cases hxy : x = y
    · rw [hxy, identifierOrder_self]
      exact (compare_eq_iff_eq.mpr rfl).symm
    · rw [identifierOrder, number64?_of_numeral hn.1, number64?_of_numeral hn.2,
        if_pos (h.fits x hx y hy hn.1 hn.2 hxy), if_pos (h.fits y hy x hx hn.2 hn.1 (Ne.symm hxy))]
  next hn => exact identifierOrder_of_not hn

lemma PlainNumbers.identifierOrder_ne_gt_iff (h : PlainNumbers ids) (hx : x ∈ ids) (hy : y ∈ ids) :
    identifierOrder x y ≠ .gt ↔
      if IsNumeral x ∧ IsNumeral y then numeralValue x ≤ numeralValue y else x ≤ y := by
  rw [h.identifierOrder_eq hx hy]
  split
  · exact compare_le_iff_le
  · exact compare_le_iff_le

lemma identifierOrder_swap (x y : String) : identifierOrder y x = (identifierOrder x y).swap := by
  rw [identifierOrder, identifierOrder]
  cases Text.number64? x.toList <;> cases Text.number64? y.toList <;> exact Std.OrientedOrd.eq_swap

lemma identifierOrder_self_ne_gt (x : String) : identifierOrder x x ≠ .gt := by
  rw [identifierOrder_self]
  nofun

lemma PlainNumbers.antisymm (h : PlainNumbers ids) (hx : x ∈ ids) (hy : y ∈ ids)
    (hxy : identifierOrder x y ≠ .gt) (hyx : identifierOrder y x ≠ .gt) : x = y := by
  rw [h.identifierOrder_ne_gt_iff hx hy] at hxy
  rw [h.identifierOrder_ne_gt_iff hy hx] at hyx
  by_cases hn : IsNumeral x ∧ IsNumeral y
  · rw [if_pos hn] at hxy
    rw [if_pos hn.symm] at hyx
    exact h.inj x hx y hy hn.1 hn.2 (hxy.antisymm hyx)
  · rw [if_neg hn] at hxy
    rw [if_neg (mt And.symm hn)] at hyx
    exact hxy.antisymm hyx

lemma Wedge.circle (h : Wedge p r q) (hids : PlainNumbers ids) (hp : p ∈ ids) (hr : r ∈ ids)
    (hq : q ∈ ids) :
    identifierOrder p r = .lt ∧ identifierOrder r q = .lt ∧ identifierOrder q p = .lt := by
  rw [hids.identifierOrder_eq hp hr, hids.identifierOrder_eq hr hq, hids.identifierOrder_eq hq hp,
    if_neg fun hn => h.middle hn.2, if_neg fun hn => h.middle hn.1, if_pos ⟨h.right, h.left⟩]
  exact ⟨compare_lt_iff_lt.mpr h.textFrom, compare_lt_iff_lt.mpr h.textTo,
    compare_lt_iff_lt.mpr h.values⟩

lemma not_wedged_of_le (hids : PlainNumbers [x, y, z]) (hxy : identifierOrder x y ≠ .gt)
    (hyz : identifierOrder y z ≠ .gt) (hxz : identifierOrder x z ≠ .gt) : ¬ Wedged [x, y, z] := by
  -- Each identifier of a wedge has one before it and one after it, so all would be the middle one.
  have hfirst : ∀ w ∈ [x, y, z], identifierOrder x w ≠ .gt := by
    simp [identifierOrder_self_ne_gt, hxy, hxz]
  have hlast : ∀ w ∈ [x, y, z], identifierOrder w z ≠ .gt := by
    simp [identifierOrder_self_ne_gt, hyz, hxz]
  have hmiddle {u v w : String} (hu : u ∈ [x, y, z]) (hv : v ∈ [x, y, z]) (hw : w ∈ [x, y, z])
      (huv : identifierOrder u v = .lt) (hvw : identifierOrder v w = .lt) : v = y := by
    have hvx : v ≠ x := fun h => by
      refine hfirst u hu ?_
      rw [← h, identifierOrder_swap, huv]
      rfl
    have hvz : v ≠ z := fun h => by
      refine hlast w hw ?_
      rw [← h, identifierOrder_swap, hvw]
      rfl
    simpa [hvx, hvz] using hv
  rintro ⟨m, hm, text, htext, n, hn, hwedge⟩
  obtain ⟨hmt, htn, hnm⟩ := hwedge.circle hids hm htext hn
  have hmy := hmiddle hn hm htext hnm hmt
  have hty := hmiddle hm htext hn hmt htn
  exact hwedge.textFrom.ne (hmy.trans hty.symm)

lemma wedge_of_le (hids : PlainNumbers ids) (hp : p ∈ ids) (hq : q ∈ ids) (hnp : IsNumeral p)
    (hnr : ¬ IsNumeral r) (hnq : IsNumeral q) (hpr : p ≤ r) (hrq : r ≤ q)
    (hvalue : numeralValue q ≤ numeralValue p) :
    Wedge p r q := by
  have hfrom : p < r := lt_of_le_of_ne hpr fun h => hnr (h ▸ hnp)
  have hto : r < q := lt_of_le_of_ne hrq fun h => hnr (h ▸ hnq)
  have hne : numeralValue q ≠ numeralValue p := fun h =>
    (hfrom.trans hto).ne (hids.inj p hp q hq hnp hnq h.symm)
  exact ⟨hnp, hnr, hnq, hfrom, hto, lt_of_le_of_ne hvalue hne⟩

lemma wedged_of_gt (hids : PlainNumbers [x, y, z]) (hxy : identifierOrder x y ≠ .gt)
    (hyz : identifierOrder y z ≠ .gt) (hxz : identifierOrder x z = .gt) : Wedged [x, y, z] := by
  have hx : x ∈ [x, y, z] := List.mem_cons_self
  have hy : y ∈ [x, y, z] := List.mem_cons_of_mem x List.mem_cons_self
  have hz : z ∈ [x, y, z] := List.mem_cons_of_mem x (List.mem_cons_of_mem y List.mem_cons_self)
  rw [hids.identifierOrder_ne_gt_iff hx hy] at hxy
  rw [hids.identifierOrder_ne_gt_iff hy hz] at hyz
  rw [hids.identifierOrder_eq hx hz] at hxz
  -- Two numerals and a text form a wedge, whichever of the three the text is.
  by_cases hnx : IsNumeral x <;> by_cases hny : IsNumeral y <;> by_cases hnz : IsNumeral z <;>
    simp only [hnx, hny, hnz, and_self, and_true, and_false, if_true, if_false,
      compare_gt_iff_gt] at hxy hyz hxz
  · exact absurd (hxy.trans hyz) hxz.not_ge
  · exact ⟨y, hy, z, hz, x, hx, wedge_of_le hids hy hx hny hnz hnx hyz hxz.le hxy⟩
  · exact ⟨x, hx, y, hy, z, hz, wedge_of_le hids hx hz hnx hny hnz hxy hyz hxz.le⟩
  · exact absurd (hxy.trans hyz) hxz.not_ge
  · exact ⟨z, hz, x, hx, y, hy, wedge_of_le hids hz hy hnz hnx hny hxz.le hxy hyz⟩
  · exact absurd (hxy.trans hyz) hxz.not_ge
  · exact absurd (hxy.trans hyz) hxz.not_ge
  · exact absurd (hxy.trans hyz) hxz.not_ge

lemma identifierOrder_trans_iff (hids : PlainNumbers [x, y, z]) (hxy : identifierOrder x y ≠ .gt)
    (hyz : identifierOrder y z ≠ .gt) : identifierOrder x z ≠ .gt ↔ ¬ Wedged [x, y, z] :=
  ⟨not_wedged_of_le hids hxy hyz, fun h hxz => h (wedged_of_gt hids hxy hyz hxz)⟩

lemma identifiersOrder_swap (as bs : List String) :
    identifiersOrder bs as = (identifiersOrder as bs).swap := by
  induction as generalizing bs with
  | nil => cases bs <;> exact Std.OrientedOrd.eq_swap
  | cons a as ih =>
    cases bs with
    | nil => exact Std.OrientedOrd.eq_swap
    | cons b bs =>
      rw [identifiersOrder, identifiersOrder]
      by_cases h : a = b
      · rw [if_pos h.symm, if_pos h, ih bs]
      · rw [if_neg (Ne.symm h), if_neg h, identifierOrder_swap]

lemma identifiersOrder_nil (bs : List String) : identifiersOrder [] bs ≠ .gt := by
  rw [identifiersOrder]
  · exact compare_le_iff_le.mpr bs.length.zero_le
  · nofun

lemma identifiersOrder_cons_nil (x : String) (as : List String) :
    identifiersOrder (x :: as) [] = .gt :=
  compare_gt_iff_gt.mpr as.length.succ_pos

lemma not_wedged_nil : ¬ Wedged [] := nofun

lemma identifiersOrder_trans_iff (hids : PlainNumbers (partingIdentifiers as bs cs))
    (hab : identifiersOrder as bs ≠ .gt) (hbc : identifiersOrder bs cs ≠ .gt) :
    identifiersOrder as cs ≠ .gt ↔ ¬ Wedged (partingIdentifiers as bs cs) := by
  fun_induction partingIdentifiers as bs cs with
  | case1 a as b bs c cs h ih =>
    obtain ⟨rfl, rfl⟩ := h
    rw [identifiersOrder, if_pos rfl] at hab hbc ⊢
    exact ih hids hab hbc
  | case2 a as b bs c cs h =>
    rw [identifiersOrder] at hab hbc ⊢
    by_cases hb : a = b
    · subst hb
      have hc : a ≠ c := fun hc => h ⟨rfl, hc⟩
      rw [if_neg hc] at hbc ⊢
      exact iff_of_true hbc (not_wedged_of_le hids (identifierOrder_self_ne_gt a) hbc hbc)
    rw [if_neg hb] at hab
    by_cases hc : b = c
    · subst hc
      rw [if_neg hb]
      exact iff_of_true hab (not_wedged_of_le hids hab (identifierOrder_self_ne_gt b) hab)
    rw [if_neg hc] at hbc
    have hne : a ≠ c := fun hac => hb (hids.antisymm (by simp) (by simp) hab (hac ▸ hbc))
    rw [if_neg hne]
    exact identifierOrder_trans_iff hids hab hbc
  | case3 as bs cs h =>
    refine iff_of_true ?_ not_wedged_nil
    cases as with
    | nil => exact identifiersOrder_nil cs
    | cons a as =>
      cases bs with
      | nil => exact absurd (identifiersOrder_cons_nil a as) hab
      | cons b bs =>
        cases cs with
        | nil => exact absurd (identifiersOrder_cons_nil b bs) hbc
        | cons c cs => exact (h a as b bs c cs rfl rfl rfl).elim

lemma partingIdentifiers_eq_nil (h : as = [] ∨ bs = [] ∨ cs = []) :
    partingIdentifiers as bs cs = [] := by
  cases as <;> cases bs <;> cases cs <;> first | rfl | simp at h

lemma partingIdentifiers_reverse (as bs cs : List String) :
    partingIdentifiers cs bs as = (partingIdentifiers as bs cs).reverse := by
  fun_induction partingIdentifiers as bs cs with
  | case1 a as b bs c cs h ih => rw [partingIdentifiers, if_pos ⟨h.2.symm, h.1.symm⟩, ih]
  | case2 a as b bs c cs h =>
    rw [partingIdentifiers, if_neg fun hc => h ⟨hc.2.symm, hc.1.symm⟩]
    rfl
  | case3 as bs cs h =>
    match as, bs, cs, h with
    | [], _, _, _ => exact partingIdentifiers_eq_nil (.inr (.inr rfl))
    | _, [], _, _ => exact partingIdentifiers_eq_nil (.inr (.inl rfl))
    | _, _, [], _ => exact partingIdentifiers_eq_nil (.inl rfl)
    | a :: as, b :: bs, c :: cs, h => exact (h a as b bs c cs rfl rfl rfl).elim

lemma PlainNumbers.reverse (h : PlainNumbers ids) : PlainNumbers ids.reverse where
  fits x hx y hy := h.fits x (List.mem_reverse.mp hx) y (List.mem_reverse.mp hy)
  inj x hx y hy := h.inj x (List.mem_reverse.mp hx) y (List.mem_reverse.mp hy)

lemma wedged_reverse : Wedged ids.reverse ↔ Wedged ids := by
  simp only [Wedged, List.mem_reverse]

end Identifiers

section Versions

variable {a b c : Semver}

def core (v : Semver) : Nat × Nat × Nat := (v.major, v.minor, v.patch)

def parting (a b c : Semver) : List String :=
  if a.core = b.core ∧ b.core = c.core then
    partingIdentifiers a.preRelease b.preRelease c.preRelease
  else []

instance : Std.TransCmp coreOrder :=
  inferInstanceAs (Std.TransCmp
    (compareLex (compareOn major) (compareLex (compareOn minor) (compareOn patch))))

lemma coreOrder_eq_iff : coreOrder a b = .eq ↔ a.core = b.core := by
  simp only [coreOrder, core, Ordering.then_eq_eq, compare_eq_iff_eq, Prod.mk.injEq]

lemma preReleaseOrder_swap (a b : Semver) : preReleaseOrder b a = (preReleaseOrder a b).swap := by
  rw [preReleaseOrder, preReleaseOrder]
  cases a.isStable <;> cases b.isStable <;> first | rfl | exact identifiersOrder_swap _ _

lemma preReleaseOrder_trans_iff
    (hids : PlainNumbers (partingIdentifiers a.preRelease b.preRelease c.preRelease))
    (hab : preReleaseOrder a b ≠ .gt) (hbc : preReleaseOrder b c ≠ .gt) :
    preReleaseOrder a c ≠ .gt ↔
      ¬ Wedged (partingIdentifiers a.preRelease b.preRelease c.preRelease) := by
  have hstable (hc : c.isStable = true) :
      ¬ Wedged (partingIdentifiers a.preRelease b.preRelease c.preRelease) := by
    rw [partingIdentifiers_eq_nil (.inr (.inr (List.isEmpty_iff.mp hc)))]
    exact not_wedged_nil
  rw [preReleaseOrder] at hab hbc ⊢
  cases ha : a.isStable <;> cases hb : b.isStable <;> cases hc : c.isStable <;>
    simp only [ha, hb, hc, ne_eq, not_true_eq_false] at hab hbc ⊢
  · exact identifiersOrder_trans_iff hids hab hbc
  · exact iff_of_true nofun (hstable hc)
  · exact iff_of_true nofun (hstable hc)
  · exact identifiersOrder_trans_iff hids hab hbc

lemma partsOrder_swap (a b : Semver) : partsOrder b a = (partsOrder a b).swap := by
  have hcore : coreOrder b a = (coreOrder a b).swap := Std.OrientedCmp.eq_swap
  rw [partsOrder, partsOrder, Ordering.swap_then, hcore, preReleaseOrder_swap]

lemma partsOrder_self (a : Semver) : partsOrder a a = .eq := by
  have hswap := partsOrder_swap a a
  cases h : partsOrder a a <;> rw [h] at hswap <;> first | rfl | cases hswap

lemma isLE_coreOrder (h : partsOrder a b ≠ .gt) : (coreOrder a b).isLE = true := by
  rw [partsOrder] at h
  cases hcore : coreOrder a b with
  | lt => rfl
  | eq => rfl
  | gt =>
    rw [hcore] at h
    exact absurd rfl h

lemma coreOrder_eq_lt (h : partsOrder a b ≠ .gt) (hne : a.core ≠ b.core) : coreOrder a b = .lt := by
  have hle := isLE_coreOrder h
  cases hcore : coreOrder a b with
  | lt => rfl
  | eq => exact absurd (coreOrder_eq_iff.mp hcore) hne
  | gt =>
    rw [hcore] at hle
    cases hle

lemma partsOrder_trans_iff (hids : PlainNumbers (parting a b c)) (hab : partsOrder a b ≠ .gt)
    (hbc : partsOrder b c ≠ .gt) : partsOrder a c ≠ .gt ↔ ¬ Wedged (parting a b c) := by
  by_cases hcore : a.core = b.core ∧ b.core = c.core
  · rw [parting, if_pos hcore] at hids ⊢
    rw [partsOrder, coreOrder_eq_iff.mpr hcore.1, Ordering.eq_then] at hab
    rw [partsOrder, coreOrder_eq_iff.mpr hcore.2, Ordering.eq_then] at hbc
    rw [partsOrder, coreOrder_eq_iff.mpr (hcore.1.trans hcore.2), Ordering.eq_then]
    exact preReleaseOrder_trans_iff hids hab hbc
  · have hac : coreOrder a c = .lt := by
      rcases not_and_or.mp hcore with hne | hne
      · exact Std.TransCmp.lt_of_lt_of_isLE (coreOrder_eq_lt hab hne) (isLE_coreOrder hbc)
      · exact Std.TransCmp.lt_of_isLE_of_lt (isLE_coreOrder hab) (coreOrder_eq_lt hbc hne)
    rw [parting, if_neg hcore, partsOrder, hac]
    exact iff_of_true nofun not_wedged_nil

lemma parting_reverse (a b c : Semver) : parting c b a = (parting a b c).reverse := by
  rw [parting, parting]
  split
  next h => rw [if_pos ⟨h.2.symm, h.1.symm⟩, partingIdentifiers_reverse]
  next h => rw [if_neg fun hc => h ⟨hc.2.symm, hc.1.symm⟩, List.reverse_nil]

lemma partsOrder_eq_trans (hids : PlainNumbers (parting a b c)) (hab : partsOrder a b = .eq)
    (hbc : partsOrder b c = .eq) : partsOrder a c = .eq := by
  -- A wedge would put `a` after `c` and `c` after `a`.
  have hforward := partsOrder_trans_iff hids (by rw [hab]; nofun) (by rw [hbc]; nofun)
  have hbackward : partsOrder c a ≠ .gt ↔ ¬ Wedged (parting a b c) := by
    rw [← wedged_reverse, ← parting_reverse]
    refine partsOrder_trans_iff (parting_reverse a b c ▸ hids.reverse) ?_ ?_
    · rw [partsOrder_swap, hbc]
      nofun
    · rw [partsOrder_swap, hab]
      nofun
  have hnot : ¬ Wedged (parting a b c) := fun hwedged => by
    have hac : partsOrder a c = .gt := not_not.mp fun hle => hforward.mp hle hwedged
    rw [partsOrder_swap, hac] at hbackward
    exact hbackward.mp nofun hwedged
  have hge := hbackward.mpr hnot
  rw [partsOrder_swap] at hge
  cases hac : partsOrder a c with
  | lt =>
    rw [hac] at hge
    exact absurd rfl hge
  | eq => rfl
  | gt => exact absurd hac (hforward.mpr hnot)

lemma order_eq_partsOrder {s t : String} (ha : parse s = .ok a) (hb : parse t = .ok b) :
    order a b = partsOrder a b := by
  rw [order]
  split
  next h =>
    obtain rfl := eq_of_version_eq (parse_eq_ok_iff.mp ha) (parse_eq_ok_iff.mp hb) h
    exact (partsOrder_self a).symm
  next => rfl

lemma order_swap (a b : Semver) : order b a = (order a b).swap := by
  rw [order, order]
  by_cases h : a.version = b.version
  · rw [if_pos h.symm, if_pos h]
    rfl
  · rw [if_neg (Ne.symm h), if_neg h, partsOrder_swap]

/-- Pre-release identifiers are compared by value when both are numerals and as texts otherwise, so
that a text between two numerals need not agree with their values. -/
theorem order_preorder_unless_wedged {s t u : String} (ha : parse s = .ok a) (hb : parse t = .ok b)
    (hc : parse u = .ok c) :
    order a a = .eq ∧ order b a = (order a b).swap ∧
      (PlainNumbers (parting a b c) →
        (order a b = .eq → order b c = .eq → order a c = .eq) ∧
          (order a b ≠ .gt → order b c ≠ .gt →
            (order a c ≠ .gt ↔ ¬ Wedged (parting a b c)))) := by
  refine ⟨if_pos rfl, order_swap a b, fun hids => ?_⟩
  rw [order_eq_partsOrder ha hb, order_eq_partsOrder hb hc, order_eq_partsOrder ha hc]
  exact ⟨partsOrder_eq_trans hids, partsOrder_trans_iff hids⟩

def candidate (id : String) : Semver := ⟨1, 0, 0, ["rc", id], none⟩

theorem order_preorder_unless_wedged_candidates :
    order (candidate "2") (candidate "10") ≠ .gt ∧ order (candidate "10") (candidate "x") ≠ .gt ∧
      order (candidate "2") (candidate "x") ≠ .gt := by
  obtain ⟨-, -, h⟩ := order_preorder_unless_wedged (s := "1.0.0-rc.2") (t := "1.0.0-rc.10")
    (u := "1.0.0-rc.x") (a := candidate "2") (b := candidate "10") (c := candidate "x") rfl rfl rfl
  have hab : order (candidate "2") (candidate "10") ≠ .gt := by decide +kernel
  have hbc : order (candidate "10") (candidate "x") ≠ .gt := by decide +kernel
  exact ⟨hab, hbc, ((h (by decide +kernel)).2 hab hbc).mpr (by decide +kernel)⟩

theorem order_not_transitive :
    ¬ ∀ (s t u : String) (a b c : Semver), parse s = .ok a → parse t = .ok b → parse u = .ok c →
      order a a = .eq ∧ order b a = (order a b).swap ∧
        (order a b ≠ .gt → order b c ≠ .gt → order a c ≠ .gt) := by
  intro h
  obtain ⟨-, -, htrans⟩ := h "1.0.0-rc.10" "1.0.0-rc.1a" "1.0.0-rc.2" (candidate "10")
    (candidate "1a") (candidate "2") rfl rfl rfl
  exact htrans (by decide +kernel) (by decide +kernel) (by decide +kernel)

end Versions

end Rollout.Semver
