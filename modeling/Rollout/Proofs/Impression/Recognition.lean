import Rollout.Proofs.Impression.PreviousTime
import Rollout.Proofs.Impression.Storage
import Std.Data.String.ToInt

/-! The identity of an impression joins its fields by a separator that the fields may hold
themselves, so another impression can have the same. -/

namespace Rollout

section Separator

variable {α : Type} [DecidableEq α] {c : α} {a b r s : List α}

lemma eq_nil_of_separator (h : c :: r = a ++ c :: s) (hcount : a.count c = 0) : a = [] := by
  cases a with
  | nil => rfl
  | cons d rest =>
    obtain ⟨rfl, -⟩ := List.cons.inj h
    rw [List.count_cons_self] at hcount
    cases hcount

lemma append_separator_inj (hcount : a.count c = b.count c) (h : a ++ c :: r = b ++ c :: s) :
    a = b ∧ r = s := by
  rcases List.append_eq_append_iff.mp h with ⟨rest, rfl, hr⟩ | ⟨rest, rfl, hs⟩
  · rw [List.count_append, Nat.left_eq_add] at hcount
    obtain rfl := eq_nil_of_separator hr hcount
    exact ⟨(List.append_nil a).symm, (List.cons.inj hr).2⟩
  · rw [List.count_append, Nat.add_eq_left] at hcount
    obtain rfl := eq_nil_of_separator hs hcount
    exact ⟨List.append_nil b, (List.cons.inj hs).2.symm⟩

lemma separator_notMem_toString (n : Int) : ':' ∉ (toString n).toList := by
  have hdigits (m : Nat) : ':' ∉ m.repr.toList := by
    intro hm
    rw [Nat.toList_repr] at hm
    exact absurd (Nat.isDigit_of_mem_toDigits (by decide) (by decide) hm) (by decide)
  rw [Int.toString_eq_repr, Int.repr_eq_if]
  split
  · exact hdigits _
  · rw [String.toList_append, List.mem_append, not_or]
    exact ⟨by decide, hdigits _⟩

lemma append_separator_toString_inj {a b : List Char} {m n : Int}
    (h : a ++ ':' :: (toString m).toList = b ++ ':' :: (toString n).toList) : a = b ∧ m = n := by
  -- Numbers hold no separator, so the texts before them hold equally many.
  have hcount := congrArg (List.count ':') h
  rw [List.count_append, List.count_append, List.count_cons_self, List.count_cons_self,
    List.count_eq_zero.mpr (separator_notMem_toString m),
    List.count_eq_zero.mpr (separator_notMem_toString n), Nat.add_left_inj] at hcount
  obtain ⟨hab, hnumber⟩ := append_separator_inj hcount h
  exact ⟨hab, Int.repr_injective (String.toList_injective hnumber)⟩

end Separator

namespace Impression

structure Alike (i j : Impression) : Prop where
  matchingKey : i.matchingKey = j.matchingKey
  feature : i.feature = j.feature
  treatment : i.treatment = j.treatment
  label : i.label = j.label
  changeNumber : i.changeNumber = j.changeNumber

def separators (i : Impression) : List Nat :=
  [i.matchingKey, i.feature, i.treatment].map fun text => text.toList.count ':'

lemma toList_identity (i : Impression) :
    i.identity.toList = i.matchingKey.toList ++ ':' :: (i.feature.toList ++ ':' ::
      (i.treatment.toList ++ ':' :: (i.label.toList ++ ':' ::
        (toString i.changeNumber.toInt).toList))) := by
  simp [identity]

lemma alike_iff {i j : Impression} :
    i.Alike j ↔ i.identity = j.identity ∧ i.separators = j.separators := by
  constructor
  · rintro ⟨hk, hf, ht, hl, hn⟩
    rw [identity, identity, separators, separators, hk, hf, ht, hl, hn]
    exact ⟨rfl, rfl⟩
  · rintro ⟨hi, hs⟩
    have htext := congrArg String.toList hi
    rw [toList_identity, toList_identity] at htext
    simp only [separators, List.map_cons, List.map_nil, List.cons.injEq, and_true] at hs
    -- One field after the other is cut off at its separator.
    obtain ⟨hk, hf, ht⟩ := hs
    obtain ⟨hkey, hrest⟩ := append_separator_inj hk htext
    obtain ⟨hfeature, hrest⟩ := append_separator_inj hf hrest
    obtain ⟨htreatment, hrest⟩ := append_separator_inj ht hrest
    obtain ⟨hlabel, hnumber⟩ := append_separator_toString_inj hrest
    exact ⟨String.toList_injective hkey, String.toList_injective hfeature,
      String.toList_injective htreatment, String.toList_injective hlabel, Int64.toInt_inj.mp hnumber⟩

inductive TakenFor (earlier i : Impression) : Prop
  | alike (h : earlier.Alike i)
  | collision (hidentity : earlier.identity ≠ i.identity) (hhash : earlier.hash = i.hash)
  | separator (hidentity : earlier.identity = i.identity)
      (hseparators : earlier.separators ≠ i.separators)

lemma hash_of_identity {i j : Impression} (h : i.identity = j.identity) : i.hash = j.hash := by
  rw [hash, hash, h]

lemma takenFor_iff {earlier i : Impression} : TakenFor earlier i ↔ earlier.hash = i.hash := by
  constructor
  · rintro (h | ⟨-, h⟩ | ⟨h, -⟩)
    · exact hash_of_identity (alike_iff.mp h).1
    · exact h
    · exact hash_of_identity h
  · intro hhash
    by_cases hi : earlier.identity = i.identity
    · by_cases hs : earlier.separators = i.separators
      · exact .alike (alike_iff.mpr ⟨hi, hs⟩)
      · exact .separator hi hs
    · exact .collision hi hhash

end Impression

namespace ImpressionObserver

lemma exists_of_mem_settings {xs : List Impression} {i : Nat} {hash : UInt64} {time : Int64}
    (h : (hash, time) ∈ settings (seenBefore xs i)) :
    ∃ j y, j < i ∧ xs[j]? = some y ∧ y.hash = hash ∧ y.time = time := by
  obtain ⟨y, hy, heq⟩ := List.mem_map.mp h
  obtain ⟨hhash, htime⟩ := Prod.mk.inj heq
  obtain ⟨j, hj⟩ := List.mem_iff_getElem?.mp (List.mem_reverse.mp hy)
  rw [List.getElem?_take] at hj
  by_cases hlt : j < i
  · rw [if_pos hlt] at hj
    exact ⟨j, y, hlt, hj, hhash, htime⟩
  · rw [if_neg hlt] at hj
    cases hj

lemma observe_new_getElem? {o : ImpressionObserver} {capacity : Nat} (positive : 0 < capacity)
    (hn : new capacity = .ok o) {items : List ImpressionWithAttributes} {i : Nat} {x : Impression}
    {attributes : Option Attributes} (hi : items[i]? = some (x, attributes)) :
    let history := settings (seenBefore (items.map Prod.fst) i)
    (o.observe items).1[i]? =
      some ({ x with previousTime := remembered capacity history x.hash }, attributes) := by
  obtain ⟨_, hn', ho⟩ := remembers_new positive
  obtain rfl := Except.ok.inj (hn.symm.trans hn')
  have hanswer := ho.observe_getElem? positive hi
  rwa [List.append_nil] at hanswer

/-- An impression is answered with the time of an earlier one only if the two are alike, or their
hashes collide, or their keys, flags or treatments hold the separator a different number of times. -/
theorem observe_takenFor (capacity : Nat) (positive : 0 < capacity) :
    (∀ x y : Impression, ¬ x.Alike y → x.identity = y.identity → x.separators ≠ y.separators) ∧
      ∃ o, new capacity = .ok o ∧
        ∀ (items : List ImpressionWithAttributes) (i : Nat) (x : Impression)
          (attributes : Option Attributes) (time : Int64),
          (o.observe items).1[i]? = some (x, attributes) → x.previousTime = some time →
            ∃ j y others, j < i ∧ items[j]? = some (y, others) ∧ y.time = time ∧ y.TakenFor x := by
  obtain ⟨o, hn, -⟩ := remembers_new positive
  refine ⟨fun x y hne hi hs => hne (Impression.alike_iff.mpr ⟨hi, hs⟩), o, hn, ?_⟩
  intro items i x attributes time hx htime
  have hi : i < items.length := by
    rw [← length_observe o items]
    exact (List.getElem?_eq_some_iff.mp hx).1
  have hanswer := observe_new_getElem? positive hn (List.getElem?_eq_getElem hi)
  rw [hx, Option.some.injEq, Prod.mk.injEq] at hanswer
  obtain ⟨rfl, -⟩ := hanswer
  obtain ⟨j, _, hj, hy, hhash, hsince⟩ := exists_of_mem_settings (mem_of_remembered htime)
  rw [List.getElem?_map, Option.map_eq_some_iff] at hy
  obtain ⟨⟨y, others⟩, hitem, rfl⟩ := hy
  exact ⟨j, y, others, hj, hitem, hsince, Impression.takenFor_iff.mpr hhash⟩

theorem observe_takenFor_sample :
    let items := [(sample "a" 5, none), (sample "b" 6, none), (sample "a" 7, none)]
    let x := { sample "a" 7 with previousTime := some 5 }
    0 < 10 ∧ ∃ o, new 10 = .ok o ∧ (o.observe items).1[2]? = some (x, none) ∧
      x.previousTime = some 5 ∧
      ∃ j y others, j < 2 ∧ items[j]? = some (y, others) ∧ y.time = 5 ∧ y.TakenFor x := by
  intro items x
  obtain ⟨-, o, hn, ho⟩ := observe_takenFor 10 (by decide)
  have hremembered : remembered 10 (settings [sample "b" 6, sample "a" 5]) (sample "a" 7).hash =
      some 5 := by
    decide +kernel
  have hanswer : (o.observe items).1[2]? = some (x, none) := by
    have hx : items[2]? = some (sample "a" 7, none) := rfl
    rw [observe_new_getElem? (by decide) hn hx]
    exact congrArg (fun previousTime => some ({ sample "a" 7 with previousTime }, none)) hremembered
  exact ⟨by decide, o, hn, hanswer, rfl, ho items 2 x none 5 hanswer rfl⟩

theorem observe_takenFor_different :
    let x := { sample "a:b" 1 with feature := "c" }
    let y := { sample "a" 2 with feature := "b:c" }
    let items := [(x, none), (y, none)]
    ¬ x.Alike y ∧ x.identity = y.identity ∧ ∃ o, new 10 = .ok o ∧
      (o.observe items).1[1]? = some ({ y with previousTime := some 1 }, none) := by
  intro x y items
  have hidentity : x.identity = y.identity := by decide +kernel
  have hremembered : remembered 10 (settings [x]) y.hash = some 1 := by decide +kernel
  obtain ⟨o, hn, -⟩ := remembers_new (show 0 < 10 by decide)
  refine ⟨fun h => absurd h.feature (by decide), hidentity, o, hn, ?_⟩
  have hy : items[1]? = some (y, none) := rfl
  rw [observe_new_getElem? (by decide) hn hy]
  exact congrArg (fun previousTime => some ({ y with previousTime }, none)) hremembered

end ImpressionObserver

end Rollout
