import Rollout.Proofs.Impression.Observation

namespace Rollout.ImpressionObserver

structure LastBefore (hashes : List UInt64) (i j : Nat) (hash : UInt64) : Prop where
  before : j < i
  same : hashes[j]? = some hash
  last : ∀ k, j < k → k < i → hashes[k]? ≠ some hash

def between {α : Type} (xs : List α) (j i : Nat) : List α := (xs.take i).drop (j + 1)

section Positions

variable {α : Type} {xs : List α} {i j : Nat} {x : α}

lemma take_eq_append_between (hj : j < i) (hx : xs[j]? = some x) :
    xs.take i = xs.take j ++ x :: between xs j i := by
  have htake : (xs.take i)[j]? = some x := by rw [List.getElem?_take_of_lt hj, hx]
  obtain ⟨hlt, hget⟩ := List.getElem?_eq_some_iff.mp htake
  have hjoin : (xs.take i).take j ++ (xs.take i).drop j = xs.take i := List.take_append_drop j _
  rw [List.take_take, Nat.min_eq_left (Nat.le_of_lt hj), List.drop_eq_getElem_cons hlt, hget] at hjoin
  exact hjoin.symm

lemma LastBefore.notMem_between {hashes : List UInt64} {hash : UInt64}
    (h : LastBefore hashes i j hash) : hash ∉ between hashes j i := by
  intro hm
  obtain ⟨n, hn⟩ := List.mem_iff_getElem?.mp hm
  rw [between, List.getElem?_drop, List.getElem?_take] at hn
  by_cases hlt : j + 1 + n < i
  · rw [if_pos hlt] at hn
    exact h.last (j + 1 + n) (by omega) hlt hn
  · rw [if_neg hlt] at hn
    cases hn

end Positions

def seenBefore (xs : List Impression) (i : Nat) : List Impression := (xs.take i).reverse

variable {o : ImpressionObserver} {capacity : Nat} {seen : List Impression}

lemma length_observe (o : ImpressionObserver) (items : List ImpressionWithAttributes) :
    (o.observe items).1.length = items.length := by
  induction items generalizing o with
  | nil => rfl
  | cons item rest ih => exact congrArg (· + 1) (ih _)

lemma observe_unlinked (o : ImpressionObserver) (items : List ImpressionWithAttributes) :
    o.observe (items.map (Prod.map Impression.unlinked id)) = o.observe items := by
  induction items generalizing o with
  | nil => rfl
  | cons item rest ih =>
    have hi : o.testAndSet item.1.unlinked = o.testAndSet item.1 := rfl
    simp only [List.map_cons, observe, Prod.map, id, hi, ih]

lemma Remembers.observe_getElem? (ho : Remembers o capacity seen) (positive : 0 < capacity)
    {items : List ImpressionWithAttributes} {i : Nat} {x : Impression}
    {attributes : Option Attributes} (hi : items[i]? = some (x, attributes)) :
    let history := settings (seenBefore (items.map Prod.fst) i ++ seen)
    (o.observe items).1[i]? =
      some ({ x with previousTime := remembered capacity history x.hash }, attributes) := by
  induction items generalizing o seen i with
  | nil => cases hi
  | cons item rest ih =>
    obtain ⟨y, others⟩ := item
    obtain ⟨hy, ho'⟩ := ho.testAndSet positive y
    cases i with
    | zero =>
      cases hi
      change some ((o.testAndSet x).1, attributes) = _
      rw [hy]
      rfl
    | succ i =>
      have hrest := ih ho' hi
      have hseen : seenBefore (((y, others) :: rest).map Prod.fst) (i + 1) ++ seen =
          seenBefore (rest.map Prod.fst) i ++ y :: seen := by
        simp [seenBefore]
      rw [hseen]
      exact hrest

lemma remembered_of_lastBefore {xs : List Impression} {i j : Nat} {y : Impression} {hash : UInt64}
    (h : LastBefore (xs.map Impression.hash) i j hash) (hy : xs[j]? = some y) :
    remembered capacity (settings (seenBefore xs i)) hash =
      if (between (xs.map Impression.hash) j i).toFinset.card < capacity then some y.time
      else none := by
  have hhash : y.hash = hash := by
    have hsame := h.same
    rw [List.getElem?_map, hy] at hsame
    exact Option.some.inj hsame
  have hbetween : between (xs.map Impression.hash) j i = (between xs j i).map Impression.hash := by
    simp [between]
  have hlast : ∀ entry ∈ settings (between xs j i).reverse, entry.1 ≠ y.hash := by
    intro entry hm heq
    obtain ⟨z, hz, rfl⟩ := List.mem_map.mp hm
    apply h.notMem_between
    rw [hbetween, ← hhash, ← heq]
    exact List.mem_map_of_mem (List.mem_reverse.mp hz)
  have hsplit : settings (seenBefore xs i) =
      settings (between xs j i).reverse ++ (y.hash, y.time) :: settings (seenBefore xs j) := by
    simp [seenBefore, settings, take_eq_append_between h.before hy]
  have hkeys : ((settings (between xs j i).reverse).map Prod.fst).toFinset =
      (between (xs.map Impression.hash) j i).toFinset := by
    rw [hbetween, settings, List.map_map, List.map_reverse, List.toFinset_reverse]
    rfl
  rw [← hhash, hsplit, remembered_append_cons hlast, hkeys]

lemma remembered_of_notMem {xs : List Impression} {hash : UInt64} {i : Nat}
    (h : hash ∉ (xs.map Impression.hash).take i) (capacity : Nat) :
    remembered capacity (settings (seenBefore xs i)) hash = none := by
  refine remembered_of_forall_ne (fun entry hm heq => h ?_) capacity
  obtain ⟨y, hy, rfl⟩ := List.mem_map.mp hm
  rw [← heq, ← List.map_take]
  exact List.mem_map_of_mem (List.mem_reverse.mp hy)

/-- The observer fills in the time of the last impression with the same hash, as long as fewer other
hashes than it has room for came in between, and changes nothing else. -/
theorem observe_previousTime (capacity : Nat) (positive : 0 < capacity) :
    ∃ o, new capacity = .ok o ∧ ∀ items : List ImpressionWithAttributes,
      let hashes := items.map fun item => item.1.hash
      (o.observe items).1.length = items.length ∧
      (∀ i x attributes, items[i]? = some (x, attributes) →
        ∃ previousTime, (o.observe items).1[i]? = some ({ x with previousTime }, attributes) ∧
          (∀ j y, LastBefore hashes i j x.hash → items[j]?.map Prod.fst = some y →
            previousTime =
              if (between hashes j i).toFinset.card < capacity then some y.time else none) ∧
          (x.hash ∉ hashes.take i → previousTime = none)) ∧
      o.observe (items.map (Prod.map Impression.unlinked id)) = o.observe items := by
  obtain ⟨o, hn, ho⟩ := remembers_new positive
  refine ⟨o, hn, fun items => ?_⟩
  intro hashes
  have hhashes : hashes = (items.map Prod.fst).map Impression.hash := by
    rw [List.map_map]
    rfl
  refine ⟨length_observe o items, fun i x attributes hi => ?_, observe_unlinked o items⟩
  refine ⟨_, ho.observe_getElem? positive hi, fun j y hj hy => ?_, fun hx => ?_⟩
  · rw [List.append_nil]
    rw [hhashes] at hj ⊢
    exact remembered_of_lastBefore hj (by rw [List.getElem?_map, hy])
  · rw [List.append_nil]
    rw [hhashes] at hx
    exact remembered_of_notMem hx capacity

theorem observe_capacity_two :
    let impression := fun (key : String) (time : Int64) (previousTime : Option Int64) =>
      (({ matchingKey := key, feature := "checkout", treatment := "on", label := "default rule",
          changeNumber := 1, bucketingKey := none, time, previousTime } : Impression),
        (none : Option Attributes))
    let items := [impression "a" 1 none, impression "b" 2 none, impression "a" 3 (some 9), impression "c" 4 none,
      impression "d" 5 none, impression "a" 6 (some 9)]
    0 < 2 ∧ ∃ o, new 2 = .ok o ∧
      (o.observe items).1[2]? = some (impression "a" 3 (some 1)) ∧
      (o.observe items).1[5]? = some (impression "a" 6 none) := by
  intro impression items
  obtain ⟨o, hn, ho⟩ := observe_previousTime 2 (by decide)
  obtain ⟨-, hi, -⟩ := ho items
  refine ⟨by decide, o, hn, ?_, ?_⟩
  · obtain ⟨previousTime, hp, hlast, -⟩ := hi 2 _ _ rfl
    have hj : LastBefore (items.map fun item => item.1.hash) 2 0 (impression "a" 3 (some 9)).1.hash := by
      refine ⟨by decide, by decide +kernel, fun k hjk hki => ?_⟩
      obtain rfl : k = 1 := by omega
      decide +kernel
    rw [hp, hlast 0 _ hj rfl, if_pos (by decide +kernel)]
  · obtain ⟨previousTime, hp, hlast, -⟩ := hi 5 _ _ rfl
    have hj : LastBefore (items.map fun item => item.1.hash) 5 2 (impression "a" 6 (some 9)).1.hash := by
      refine ⟨by decide, by decide +kernel, fun k hjk hki => ?_⟩
      obtain rfl | rfl : k = 3 ∨ k = 4 := by omega
      · decide +kernel
      · decide +kernel
    rw [hp, hlast 2 _ hj rfl, if_neg (by decide +kernel)]

end Rollout.ImpressionObserver
