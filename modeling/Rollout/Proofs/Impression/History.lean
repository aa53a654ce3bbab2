import Mathlib.Data.Finset.Card
import Rollout.Proofs.Impression.Recency

/-! What a cache of fixed capacity holds, as a function of its history: the settings, the last one
in front. -/

namespace Rollout

variable {κ α : Type} [DecidableEq κ]

def latest : List (κ × α) → List (κ × α)
  | [] => []
  | (key, value) :: earlier => moveToFront key value (latest earlier)

def since (key : κ) (history : List (κ × α)) : List (κ × α) :=
  history.takeWhile fun entry => entry.1 ≠ key

def keysSince (key : κ) (history : List (κ × α)) : Finset κ :=
  ((since key history).map Prod.fst).toFinset

def remembered (capacity : Nat) (history : List (κ × α)) (key : κ) : Option α :=
  if (keysSince key history).card < capacity then
    (history.find? fun entry => entry.1 = key).map Prod.snd
  else none

lemma remembered_of_forall_ne {history : List (κ × α)} {key : κ} (h : ∀ entry ∈ history, entry.1 ≠ key)
    (capacity : Nat) : remembered capacity history key = none := by
  have hf : (history.find? fun entry => entry.1 = key) = none := by
    rw [List.find?_eq_none]
    exact fun entry he => by simpa using h entry he
  rw [remembered, hf, Option.map_none, ite_self]

lemma mem_of_remembered {capacity : Nat} {history : List (κ × α)} {key : κ} {value : α}
    (h : remembered capacity history key = some value) : (key, value) ∈ history := by
  rw [remembered, Option.ite_none_right_eq_some, Option.map_eq_some_iff] at h
  obtain ⟨-, entry, hf, rfl⟩ := h
  have hk : entry.1 = key := by simpa using List.find?_some hf
  rw [← hk]
  exact List.mem_of_find?_eq_some hf

lemma remembered_append_cons {newer older : List (κ × α)} {key : κ}
    (last : ∀ entry ∈ newer, entry.1 ≠ key) (capacity : Nat) (value : α) :
    remembered capacity (newer ++ (key, value) :: older) key =
      if (newer.map Prod.fst).toFinset.card < capacity then some value else none := by
  have hs : since key (newer ++ (key, value) :: older) = newer := by
    rw [since, List.takeWhile_append_of_pos, List.takeWhile_cons_of_neg (by simp), List.append_nil]
    exact fun entry he => by simpa using last entry he
  have hf : (newer ++ (key, value) :: older).find? (fun entry => entry.1 = key) =
      some (key, value) := by
    rw [List.find?_append, List.find?_eq_none.mpr, Option.none_or,
      List.find?_cons_of_pos (by simp)]
    exact fun entry he => by simpa using last entry he
  rw [remembered, keysSince, hs, hf, Option.map_some]

lemma nodup_latest (history : List (κ × α)) : ((latest history).map Prod.fst).Nodup := by
  induction history with
  | nil => exact List.nodup_nil
  | cons entry earlier ih => exact nodup_moveToFront ih

omit [DecidableEq κ] in
lemma trimTo_eq_take {capacity : Nat} {entries : List (κ × α)}
    (h : entries.length ≤ capacity + 1) : trimTo capacity entries = entries.take capacity := by
  rw [trimTo]
  by_cases hc : capacity < entries.length
  · rw [if_pos hc, List.dropLast_eq_take, Nat.le_antisymm h hc, Nat.add_sub_cancel]
  · rw [if_neg hc, List.take_of_length_le (Nat.not_lt.mp hc)]

lemma take_filter_take {entries : List (κ × α)} (h : (entries.map Prod.fst).Nodup) (key : κ)
    (n : Nat) :
    (((entries.take (n + 1)).filter fun entry => entry.1 ≠ key).take n) =
      ((entries.filter fun entry => entry.1 ≠ key).take n) := by
  -- The keys are distinct, so at most one entry is left out: one more than is kept is enough.
  induction entries generalizing n with
  | nil => rfl
  | cons entry rest ih =>
    obtain ⟨hm, hn⟩ := List.nodup_cons.mp h
    rw [List.take_succ_cons]
    by_cases hk : entry.1 = key
    · rw [List.filter_cons_of_neg (by simpa using hk), List.filter_cons_of_neg (by simpa using hk),
        filter_ne_eq_self, filter_ne_eq_self (hk ▸ hm), List.take_take, Nat.min_self]
      exact fun hr => (hk ▸ hm) ((List.take_sublist n rest).map Prod.fst |>.subset hr)
    · rw [List.filter_cons_of_pos (by simpa using hk), List.filter_cons_of_pos (by simpa using hk)]
      cases n with
      | zero => rfl
      | succ n => rw [List.take_succ_cons, List.take_succ_cons, ih hn n]

omit [DecidableEq κ] in
lemma find?_take {p : α → Bool} (l : List α) (n : Nat) :
    (l.take n).find? p = if (l.takeWhile fun a => !p a).length < n then l.find? p else none := by
  induction l generalizing n with
  | nil =>
    rw [List.take_nil]
    split <;> rfl
  | cons a rest ih =>
    cases n with
    | zero => simp
    | succ n =>
      rw [List.take_succ_cons, List.find?_cons, List.find?_cons, List.takeWhile_cons]
      cases p a with
      | true => simp
      | false => simp [ih]

lemma find?_latest (key : κ) (history : List (κ × α)) :
    ((latest history).find? fun entry => entry.1 = key) =
      history.find? fun entry => entry.1 = key := by
  induction history with
  | nil => rfl
  | cons entry earlier ih =>
    obtain ⟨k, value⟩ := entry
    rw [latest, moveToFront, List.find?_cons, List.find?_cons, List.find?_filter, ← ih]
    by_cases hk : k = key
    · simp [hk]
    · have hp : (fun e : κ × α => decide ((decide (e.1 ≠ k) = true) ∧ decide (e.1 = key) = true)) =
          fun e => decide (e.1 = key) := by
        funext e
        by_cases he : e.1 = key
        · simp [he, Ne.symm hk]
        · simp [he]
      rw [hp]

lemma keysSince_cons_self (key : κ) (value : α) (earlier : List (κ × α)) :
    keysSince key ((key, value) :: earlier) = ∅ := by
  simp [keysSince, since]

lemma keysSince_cons_of_ne {key k : κ} (h : k ≠ key) (value : α) (earlier : List (κ × α)) :
    keysSince key ((k, value) :: earlier) = insert k (keysSince key earlier) := by
  rw [keysSince, since, List.takeWhile_cons_of_pos (by simpa using h), List.map_cons,
    List.toFinset_cons]
  rfl

lemma keysSince_filter_ne {key k : κ} (h : k ≠ key) (history : List (κ × α)) :
    keysSince key (history.filter fun entry => entry.1 ≠ k) = (keysSince key history).erase k := by
  have hw : since key (history.filter fun entry => entry.1 ≠ k) =
      (since key history).filter fun entry => entry.1 ≠ k := by
    rw [since, List.takeWhile_filter, since]
    congr 2
    funext entry
    by_cases he : entry.1 = k
    · simp [he, h]
    · simp [he]
  rw [keysSince, hw]
  ext a
  simp only [keysSince, List.mem_toFinset, List.mem_map, List.mem_filter, Finset.mem_erase]
  constructor
  · rintro ⟨entry, ⟨he, hk⟩, rfl⟩
    exact ⟨by simpa using hk, entry, he, rfl⟩
  · rintro ⟨hk, entry, he, rfl⟩
    exact ⟨entry, ⟨he, by simpa using hk⟩, rfl⟩

lemma keysSince_latest (key : κ) (history : List (κ × α)) :
    keysSince key (latest history) = keysSince key history := by
  induction history with
  | nil => rfl
  | cons entry earlier ih =>
    obtain ⟨k, value⟩ := entry
    rw [latest, moveToFront]
    by_cases hk : k = key
    · subst hk
      rw [keysSince_cons_self, keysSince_cons_self]
    · rw [keysSince_cons_of_ne hk, keysSince_cons_of_ne hk, keysSince_filter_ne hk, ih]
      ext a
      by_cases ha : a = k
      · simp [ha]
      · simp [ha]

lemma card_keysSince (key : κ) (history : List (κ × α)) :
    (keysSince key history).card = (since key (latest history)).length := by
  have hn : ((since key (latest history)).map Prod.fst).Nodup :=
    (nodup_latest history).sublist ((List.takeWhile_sublist _).map Prod.fst)
  rw [← keysSince_latest, keysSince, List.toFinset_card_of_nodup hn, List.length_map]

lemma trimTo_moveToFront_take {capacity : Nat} (positive : 0 < capacity) (key : κ) (value : α)
    (history : List (κ × α)) :
    trimTo capacity (moveToFront key value ((latest history).take capacity)) =
      (latest ((key, value) :: history)).take capacity := by
  obtain ⟨n, rfl⟩ := Nat.exists_eq_succ_of_ne_zero (Nat.ne_of_gt positive)
  have hlen : (moveToFront key value ((latest history).take (n + 1))).length ≤ n + 1 + 1 := by
    rw [moveToFront, List.length_cons]
    refine Nat.succ_le_succ ((List.length_filter_le _ _).trans ?_)
    rw [List.length_take]
    exact Nat.min_le_left _ _
  have hl : latest ((key, value) :: history) = moveToFront key value (latest history) := rfl
  rw [trimTo_eq_take hlen, hl, moveToFront, moveToFront, List.take_succ_cons, List.take_succ_cons,
    take_filter_take (nodup_latest history)]

namespace RecencyList

def ofHistory (capacity : Nat) (history : List (κ × α)) : RecencyList κ α :=
  ⟨(latest history).take capacity,
    (nodup_latest history).sublist ((List.take_sublist capacity _).map Prod.fst)⟩

lemma get?_ofHistory (capacity : Nat) (history : List (κ × α)) (key : κ) :
    (ofHistory capacity history).get? key = remembered capacity history key := by
  have hs : ((latest history).takeWhile fun entry => !decide (entry.1 = key)) =
      since key (latest history) := by
    simp [since]
  rw [get?, ofHistory, find?_take, hs, ← card_keysSince, find?_latest, remembered]
  split
  · rfl
  · rfl

end RecencyList

end Rollout
