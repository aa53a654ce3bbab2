import Mathlib.Logic.Function.Basic
import Rollout.Proofs.Impression.Chain
import Rollout.Proofs.Impression.Recency

/-! A cache stands for the list of its entries along the chain. Every call keeps the two in step,
and so a cache answers as the list does. -/

namespace Rollout.LruCache

variable {κ α : Type} [DecidableEq κ] [Hashable κ]

structure Indexed (index : Std.HashMap κ Nat) (entryAt? : Nat → Option (κ × α)) (count : Nat) :
    Prop where
  getElem?_eq : ∀ key i, index[key]? = some i ↔ ∃ value, entryAt? i = some (key, value)
  size : index.size = count

/-- The chain visits all nodes, and their entries are the given ones, the newest in front. -/
structure Represents (c : LruCache κ α) (order : List Nat) (entries : List (κ × α)) : Prop where
  chained : Chained c order
  slots : order.Perm (List.range c.nodes.size)
  entries : order.map c.entryAt? = entries.map some
  indexed : Indexed c.index c.entryAt? c.nodes.size
  bound : c.nodes.size ≤ c.capacity

section Indexed

variable {index : Std.HashMap κ Nat} {entryAt? : Nat → Option (κ × α)} {count : Nat}

lemma Indexed.mem (h : Indexed index entryAt? count) {key : κ} {value : α} {i : Nat}
    (hi : entryAt? i = some (key, value)) : index[key]? = some i :=
  (h.getElem?_eq key i).mpr ⟨value, hi⟩

lemma Indexed.insert (h : Indexed index entryAt? count) {key : κ} {value : α} {i : Nat}
    (hk : index[key]? = none) (hi : entryAt? i = none) :
    Indexed (index.insert key i) (Function.update entryAt? i (some (key, value))) (count + 1) := by
  have hm : key ∉ index := by
    rw [Std.HashMap.mem_iff_isSome_getElem?, hk]
    exact Bool.false_ne_true
  refine ⟨fun k j => ?_, by rw [Std.HashMap.size_insert, if_neg hm, h.size]⟩
  rw [Std.HashMap.getElem?_insert]
  by_cases hj : j = i
  · subst hj
    by_cases hkk : key = k
    · simp [hkk]
    · have : index[k]? ≠ some j := by
        rw [ne_eq, h.getElem?_eq]
        simp [hi]
      simp [hkk, this]
  · by_cases hkk : key = k
    · subst hkk
      have : ¬ ∃ w, entryAt? j = some (key, w) := by
        rw [← h.getElem?_eq, hk]
        simp
      simpa [Function.update_of_ne hj, Ne.symm hj] using this
    · simpa [Function.update_of_ne hj, hkk] using h.getElem?_eq k j

lemma Indexed.erase (h : Indexed index entryAt? count) {key : κ} {value : α} {i : Nat}
    (hi : entryAt? i = some (key, value)) :
    Indexed (index.erase key) (Function.update entryAt? i none) (count - 1) := by
  have hk : index[key]? = some i := h.mem hi
  have hm : key ∈ index := by
    rw [Std.HashMap.mem_iff_isSome_getElem?, hk]
    rfl
  refine ⟨fun k j => ?_, by rw [Std.HashMap.size_erase, if_pos hm, h.size]⟩
  rw [Std.HashMap.getElem?_erase]
  by_cases hj : j = i
  · subst hj
    by_cases hkk : key = k
    · simp [hkk]
    · have : index[k]? ≠ some j := by
        rw [ne_eq, h.getElem?_eq]
        simp [hi, hkk]
      simp [hkk, this]
  · by_cases hkk : key = k
    · subst hkk
      have : ¬ ∃ w, entryAt? j = some (key, w) := by
        rw [← h.getElem?_eq, hk]
        simpa using Ne.symm hj
      simpa [Function.update_of_ne hj] using this
    · simpa [Function.update_of_ne hj, hkk] using h.getElem?_eq k j

lemma Indexed.revalue (h : Indexed index entryAt? count) {key : κ} {old value : α} {i : Nat}
    (hi : entryAt? i = some (key, old)) :
    Indexed index (Function.update entryAt? i (some (key, value))) count := by
  refine ⟨fun k j => ?_, h.size⟩
  rw [h.getElem?_eq]
  by_cases hj : j = i
  · subst hj
    simp [hi]
  · rw [Function.update_of_ne hj]

end Indexed

section Entries

variable {c : LruCache κ α} {order : List Nat} {entries : List (κ × α)} {key : κ} {i : Nat}

lemma Represents.mem_order (h : Represents c order entries) : i ∈ order ↔ i < c.nodes.size := by
  rw [h.slots.mem_iff, List.mem_range]

lemma Represents.length_entries (h : Represents c order entries) :
    entries.length = c.nodes.size := by
  have he : order.length = entries.length := by
    simpa using congrArg List.length h.entries
  rw [← he, h.slots.length_eq, List.length_range]

lemma lt_of_entryAt? {e : κ × α} (h : c.entryAt? i = some e) : i < c.nodes.size := by
  obtain ⟨node, hn, -⟩ := Option.map_eq_some_iff.mp h
  exact (Array.getElem?_eq_some_iff.mp hn).1

lemma Represents.mem_entries (h : Represents c order entries) {e : κ × α} :
    e ∈ entries ↔ ∃ i, c.entryAt? i = some e := by
  have he : some e ∈ order.map c.entryAt? ↔ e ∈ entries := by
    rw [h.entries]
    simp
  rw [← he, List.mem_map]
  constructor
  · rintro ⟨i, -, hi⟩
    exact ⟨i, hi⟩
  · rintro ⟨i, hi⟩
    exact ⟨i, h.mem_order.mpr (lt_of_entryAt? hi), hi⟩

lemma Represents.notMem_keys (h : Represents c order entries) (hk : c.index[key]? = none) :
    key ∉ entries.map Prod.fst := by
  intro hm
  obtain ⟨⟨k, value⟩, he, rfl⟩ := List.mem_map.mp hm
  obtain ⟨i, hi⟩ := h.mem_entries.mp he
  have := h.indexed.mem hi
  rw [hk] at this
  cases this

lemma get?_eq (c : LruCache κ α) (key : κ) :
    c.get? key = (c.index[key]?.bind c.entryAt?).map Prod.snd := by
  rw [get?]
  cases c.index[key]? with
  | none => rfl
  | some i =>
    change c.nodes[i]?.map LruNode.value = (c.entryAt? i).map Prod.snd
    rw [entryAt?, Option.map_map]
    rfl

lemma Represents.get?_eq_some_iff (h : Represents c order entries) {value : α} :
    c.get? key = some value ↔ (key, value) ∈ entries := by
  rw [h.mem_entries, get?_eq, Option.map_eq_some_iff]
  constructor
  · rintro ⟨⟨k, v⟩, hb, rfl⟩
    obtain ⟨i, hk, hi⟩ := Option.bind_eq_some_iff.mp hb
    obtain ⟨w, hw⟩ := (h.indexed.getElem?_eq key i).mp hk
    rw [hi] at hw
    obtain ⟨rfl, -⟩ := Prod.mk.inj (Option.some.inj hw)
    exact ⟨i, hi⟩
  · rintro ⟨i, hi⟩
    refine ⟨(key, value), ?_, rfl⟩
    rw [h.indexed.mem hi]
    exact hi

lemma Represents.filter_ne (h : Represents c order entries) {old : α}
    (hi : c.entryAt? i = some (key, old)) :
    (entries.filter fun entry => entry.1 ≠ key).map some =
      (order.filter fun j => j ≠ i).map c.entryAt? := by
  have hs : (entries.filter fun entry => entry.1 ≠ key).map some =
      (entries.map some).filter fun e => e.all fun entry => entry.1 ≠ key := by
    rw [List.filter_map]
    rfl
  rw [hs, ← h.entries, List.filter_map]
  congr 1
  refine List.filter_congr fun j hj => ?_
  have hlt : j < c.nodes.size := h.mem_order.mp hj
  have hj : c.entryAt? j = some (c.nodes[j].key, c.nodes[j].value) := by
    rw [entryAt?, Array.getElem?_eq_getElem hlt]
    rfl
  have hji : c.nodes[j].key = key ↔ j = i := by
    constructor
    · rintro rfl
      exact Option.some.inj ((h.indexed.mem hj).symm.trans (h.indexed.mem hi))
    · rintro rfl
      rw [hi] at hj
      exact (Prod.mk.inj (Option.some.inj hj)).1.symm
  simp [hj, hji]

end Entries

section Operations

variable {c : LruCache κ α} {order before after : List Nat} {entries : List (κ × α)} {key : κ}
  {value old : α} {i : Nat}

lemma Chained.modifyNode (h : Chained c order) (i : Nat) {f : LruNode κ α → LruNode κ α}
    (hf : ∀ node, (f node).newer = node.newer ∧ (f node).older = node.older) :
    Chained (c.modifyNode i f) order := by
  refine ⟨h.nodup, h.linked.congr fun j _ => ?_, h.newest, h.oldest⟩
  rw [linksAt?_modifyNode]
  split
  · simp [linksAt?, hf]
  · rfl

lemma entryAt?_modifyNode_eq_update (hi : i < c.nodes.size) {f : LruNode κ α → LruNode κ α}
    {e : κ × α} (hf : ((f c.nodes[i]).key, (f c.nodes[i]).value) = e) :
    (c.modifyNode i f).entryAt? = Function.update c.entryAt? i (some e) := by
  funext j
  rw [entryAt?_modifyNode, Function.update_apply]
  by_cases hj : j = i
  · subst hj
    rw [if_pos rfl, if_pos rfl, Array.getElem?_eq_getElem hi, Option.map_some, hf]
  · rw [if_neg (Ne.symm hj), if_neg hj]

omit [DecidableEq κ] [Hashable κ] in
lemma map_update_cons {f : Nat → Option (κ × α)} {e : κ × α} (hi : i ∉ order)
    (h : order.map f = entries.map some) :
    (i :: order).map (Function.update f i (some e)) = (e :: entries).map some := by
  have hm : order.map (Function.update f i (some e)) = order.map f := by
    refine List.map_congr_left fun j hj => Function.update_of_ne ?_ _ _
    rintro rfl
    exact hi hj
  rw [List.map_cons, List.map_cons, Function.update_self, hm, h]

lemma Represents.refresh (h : Represents c (before ++ i :: after) entries)
    (hi : c.entryAt? i = some (key, old)) :
    Represents (c.refresh i value) (i :: (before ++ after)) (moveToFront key value entries) := by
  have hlt : i < c.nodes.size := lt_of_entryAt? hi
  have hn : (i :: (before ++ after)).Nodup := List.perm_middle.nodup_iff.mp h.chained.nodup
  have hir : i ∉ before ++ after := (List.nodup_cons.mp hn).1
  have hs : SameEntries (c.modifyNode i fun node => { node with value }) (c.refresh i value) :=
    (sameEntries_unlink _ i).trans (sameEntries_pushNewest _ i)
  have hkey : c.nodes[i].key = key := by
    rw [entryAt?, Array.getElem?_eq_getElem hlt] at hi
    exact (Prod.mk.inj (Option.some.inj hi)).1
  have he : (c.refresh i value).entryAt? = Function.update c.entryAt? i (some (key, value)) := by
    rw [funext hs.entryAt?]
    exact entryAt?_modifyNode_eq_update hlt (by rw [hkey])
  have hsize : (c.refresh i value).nodes.size = c.nodes.size := hs.size.trans Array.size_modify
  refine ⟨?_, ?_, ?_, ?_, ?_⟩
  · have hv : Chained (c.modifyNode i fun node => { node with value }) (before ++ i :: after) :=
      h.chained.modifyNode i fun _ => ⟨rfl, rfl⟩
    refine hv.unlink.pushNewest ?_ hir
    rw [(sameEntries_unlink _ i).size]
    exact Nat.lt_of_lt_of_eq hlt Array.size_modify.symm
  · rw [hsize]
    exact List.perm_middle.symm.trans h.slots
  · rw [he]
    refine map_update_cons hir ?_
    rw [h.filter_ne hi, List.filter_append, List.filter_cons_of_neg (by simp), ← List.filter_append,
      List.filter_eq_self.mpr]
    intro j hj
    have hji : j ≠ i := by
      rintro rfl
      exact hir hj
    simpa using hji
  · rw [he, hs.index, hsize]
    exact h.indexed.revalue hi
  · rw [hsize, hs.capacity]
    exact h.bound

lemma Represents.append (h : Represents c order entries) (hk : c.index[key]? = none)
    (hc : c.nodes.size < c.capacity) :
    Represents (c.append key value) (c.nodes.size :: order) ((key, value) :: entries) := by
  let d : LruCache κ α :=
    { c with
      nodes := c.nodes.push ⟨key, value, none, none⟩
      index := c.index.insert key c.nodes.size }
  have hd : c.append key value = d.pushNewest c.nodes.size := rfl
  have hs : SameEntries d (c.append key value) := sameEntries_pushNewest d c.nodes.size
  have hsize : (c.append key value).nodes.size = c.nodes.size + 1 :=
    hs.size.trans (Array.size_push _)
  have hfresh : c.nodes.size ∉ order := by
    rw [h.mem_order]
    exact Nat.lt_irrefl _
  have hnone : c.entryAt? c.nodes.size = none := by
    rw [entryAt?, Array.getElem?_eq_none (Nat.le_refl _), Option.map_none]
  have he : (c.append key value).entryAt? =
      Function.update c.entryAt? c.nodes.size (some (key, value)) := by
    rw [funext hs.entryAt?]
    funext j
    change ((c.nodes.push _)[j]?).map _ = _
    rw [Array.getElem?_push, Function.update_apply]
    split <;> rfl
  refine ⟨?_, ?_, ?_, ?_, ?_⟩
  · have hdc : Chained d order := by
      refine ⟨h.chained.nodup, h.chained.linked.congr fun j hj => ?_, h.chained.newest,
        h.chained.oldest⟩
      have hne : j ≠ c.nodes.size := by
        rintro rfl
        exact hfresh hj
      change ((c.nodes.push _)[j]?).map _ = _
      rw [Array.getElem?_push, if_neg hne]
      rfl
    exact hdc.pushNewest (by simp [d]) hfresh
  · rw [hsize, List.range_succ]
    exact (h.slots.cons _).trans (List.perm_append_singleton _ _).symm
  · rw [he]
    exact map_update_cons hfresh h.entries
  · rw [he, hs.index, hsize]
    exact h.indexed.insert hk hnone
  · rw [hsize, hs.capacity]
    exact hc

lemma Represents.replace (h : Represents c (before ++ [i]) entries) (hk : c.index[key]? = none) :
    Represents (c.replace i key value) (i :: before) ((key, value) :: entries.dropLast) := by
  have hlt : i < c.nodes.size := h.mem_order.mp (List.mem_append_right _ List.mem_cons_self)
  have hin : i ∉ before := (List.nodup_cons.mp (List.perm_append_singleton _ _ |>.nodup_iff.mp
    h.chained.nodup)).1
  have hsu : SameEntries c (c.unlink i) := sameEntries_unlink c i
  obtain ⟨node, hnode, hi⟩ : ∃ node, (c.unlink i).nodes[i]? = some node ∧
      c.entryAt? i = some (node.key, node.value) := by
    have hlt' : i < (c.unlink i).nodes.size := Nat.lt_of_lt_of_eq hlt hsu.size.symm
    refine ⟨_, Array.getElem?_eq_getElem hlt', ?_⟩
    rw [← hsu.entryAt?, entryAt?, Array.getElem?_eq_getElem hlt', Option.map_some]
  let d : LruCache κ α :=
    { c.unlink i with index := ((c.unlink i).index.erase node.key).insert key i }
  have hr : c.replace i key value =
      (d.modifyNode i fun node => { node with key, value }).pushNewest i := by
    simp only [LruCache.replace, hnode]
    rfl
  have hs : SameEntries (d.modifyNode i fun node => { node with key, value })
      (c.replace i key value) := by
    rw [hr]
    exact sameEntries_pushNewest _ i
  have hlt' : i < d.nodes.size := Nat.lt_of_lt_of_eq hlt hsu.size.symm
  have hde : d.entryAt? = c.entryAt? := funext hsu.entryAt?
  have he : (c.replace i key value).entryAt? = Function.update c.entryAt? i (some (key, value)) := by
    rw [funext hs.entryAt?, ← hde]
    exact entryAt?_modifyNode_eq_update hlt' rfl
  have hsize : (c.replace i key value).nodes.size = c.nodes.size :=
    (hs.size.trans Array.size_modify).trans hsu.size
  refine ⟨?_, ?_, ?_, ?_, ?_⟩
  · have hu : Chained (c.unlink i) before := by
      simpa using h.chained.unlink
    have hd : Chained d before := ⟨hu.nodup, hu.linked, hu.newest, hu.oldest⟩
    rw [hr]
    refine Chained.pushNewest (hd.modifyNode i fun _ => ⟨rfl, rfl⟩) ?_ hin
    exact Nat.lt_of_lt_of_eq hlt' Array.size_modify.symm
  · rw [hsize]
    exact (List.perm_append_singleton _ _).symm.trans h.slots
  · rw [he]
    refine map_update_cons hin ?_
    rw [List.map_dropLast, ← h.entries, ← List.map_dropLast, List.dropLast_concat]
  · have hki : (c.index.erase node.key)[key]? = none := by
      rw [Std.HashMap.getElem?_erase, hk]
      split <;> rfl
    have hx : Indexed ((c.index.erase node.key).insert key i)
        (Function.update (Function.update c.entryAt? i none) i (some (key, value)))
        (c.nodes.size - 1 + 1) :=
      (h.indexed.erase hi).insert hki (by rw [Function.update_self])
    rw [Function.update_idem, Nat.sub_add_cancel (Nat.lt_of_le_of_lt (Nat.zero_le i) hlt)] at hx
    rw [he, hs.index, hsize]
    change Indexed (((c.unlink i).index.erase node.key).insert key i) _ _
    rw [hsu.index]
    exact hx
  · rw [hsize, hs.capacity]
    exact Nat.le_trans h.bound (Nat.le_of_eq hsu.capacity.symm)

lemma capacity_refresh (c : LruCache κ α) (i : Nat) (value : α) :
    (c.refresh i value).capacity = c.capacity :=
  ((sameEntries_unlink _ i).trans (sameEntries_pushNewest _ i)).capacity

lemma capacity_replace (c : LruCache κ α) (i : Nat) (key : κ) (value : α) :
    (c.replace i key value).capacity = c.capacity := by
  refine (sameEntries_pushNewest _ i).capacity.trans ?_
  have hu : (c.unlink i).capacity = c.capacity := (sameEntries_unlink c i).capacity
  cases (c.unlink i).nodes[i]? <;> exact hu

lemma capacity_testAndSet (c : LruCache κ α) (key : κ) (value : α) :
    (c.testAndSet key value).2.capacity = c.capacity := by
  rw [testAndSet]
  cases c.index[key]? with
  | some i => exact capacity_refresh c i value
  | none =>
    by_cases hc : c.nodes.size < c.capacity
    · simp only [if_pos hc]
      exact (sameEntries_pushNewest _ _).capacity
    · simp only [if_neg hc]
      cases c.oldest with
      | none => rfl
      | some i => exact capacity_replace c i key value

lemma testAndSet_fst (c : LruCache κ α) (key : κ) (value : α) :
    (c.testAndSet key value).1 = c.get? key := by
  rw [testAndSet, get?]
  cases c.index[key]? with
  | some i => rfl
  | none =>
    by_cases hc : c.nodes.size < c.capacity
    · simp only [if_pos hc]
    · simp only [if_neg hc]
      cases c.oldest <;> rfl

lemma Represents.testAndSet (h : Represents c order entries) (hc : 0 < c.capacity) (key : κ)
    (value : α) : ∃ order', Represents (c.testAndSet key value).2 order'
      (trimTo c.capacity (moveToFront key value entries)) := by
  rw [LruCache.testAndSet]
  cases hk : c.index[key]? with
  | some i =>
    obtain ⟨old, hi⟩ := (h.indexed.getElem?_eq key i).mp hk
    obtain ⟨before, after, rfl⟩ := List.append_of_mem (h.mem_order.mpr (lt_of_entryAt? hi))
    have hr : Represents (c.refresh i value) (i :: (before ++ after)) (moveToFront key value entries) :=
      h.refresh hi
    have hlen : (moveToFront key value entries).length ≤ c.capacity := by
      rw [hr.length_entries, ← capacity_refresh c i value]
      exact hr.bound
    rw [trimTo, if_neg (Nat.not_lt.mpr hlen)]
    exact ⟨_, hr⟩
  | none =>
    have hm : moveToFront key value entries = (key, value) :: entries := by
      rw [moveToFront, filter_ne_eq_self (h.notMem_keys hk)]
    have hlen : (moveToFront key value entries).length = c.nodes.size + 1 := by
      rw [hm, List.length_cons, h.length_entries]
    rw [trimTo, hlen]
    by_cases hsize : c.nodes.size < c.capacity
    · rw [if_neg (Nat.not_lt.mpr hsize), hm]
      simp only [if_pos hsize]
      exact ⟨_, h.append hk hsize⟩
    · rw [if_pos (Nat.lt_succ_of_le (Nat.not_lt.mp hsize)), hm]
      simp only [if_neg hsize]
      have hn : 0 < c.nodes.size := Nat.lt_of_lt_of_le hc (Nat.not_lt.mp hsize)
      have he : entries ≠ [] := by
        rw [← List.length_pos_iff, h.length_entries]
        exact hn
      have ho : order ≠ [] := List.ne_nil_of_mem (h.mem_order.mpr hn)
      obtain ⟨before, i, rfl⟩ := (List.eq_nil_or_concat order).resolve_left ho
      rw [List.concat_eq_append] at h
      have hold : c.oldest = some i := by
        rw [h.chained.oldest, List.getLast?_concat]
      rw [hold, List.dropLast_cons_of_ne_nil he]
      exact ⟨_, h.replace hk⟩

end Operations

lemma represents_empty (capacity : Nat) : Represents (empty capacity : LruCache κ α) [] [] where
  chained := ⟨List.nodup_nil, trivial, rfl, rfl⟩
  slots := List.Perm.nil
  entries := rfl
  indexed := ⟨fun key i => by simp [empty, entryAt?], rfl⟩
  bound := Nat.zero_le capacity

lemma Represents.get?_eq {c : LruCache κ α} {l : RecencyList κ α} {order : List Nat}
    (h : Represents c order l.entries) (key : κ) : c.get? key = l.get? key :=
  Option.ext fun _ => h.get?_eq_some_iff.trans l.get?_eq_some_iff.symm

lemma Represents.answer {c : LruCache κ α} {l : RecencyList κ α} {order : List Nat}
    (h : Represents c order l.entries) (hc : 0 < c.capacity) (call : CacheCall κ α) :
    (c.answer call).1 = (l.answer c.capacity call).1 ∧
      (c.answer call).2.capacity = c.capacity ∧
      ∃ order', Represents (c.answer call).2 order' (l.answer c.capacity call).2.entries := by
  cases call with
  | testAndSet key value =>
    refine ⟨?_, capacity_testAndSet c key value, h.testAndSet hc key value⟩
    exact congrArg CacheAnswer.value ((testAndSet_fst c key value).trans (h.get?_eq key))
  | get key => exact ⟨congrArg CacheAnswer.value (h.get?_eq key), rfl, order, h⟩
  | size =>
    refine ⟨congrArg CacheAnswer.size ?_, rfl, order, h⟩
    rw [size, h.indexed.size, h.length_entries]

lemma Represents.answers {c : LruCache κ α} {l : RecencyList κ α} {order : List Nat}
    (h : Represents c order l.entries) (hc : 0 < c.capacity) (calls : List (CacheCall κ α)) :
    c.answers calls = l.answers c.capacity calls := by
  induction calls generalizing c l order with
  | nil => rfl
  | cons call rest ih =>
    obtain ⟨ha, hcap, order', h'⟩ := h.answer hc call
    rw [LruCache.answers, RecencyList.answers]
    simp only [ha, ih h' (by rw [hcap]; exact hc), hcap]

theorem answers_eq_recencyList (capacity : Nat) (positive : 0 < capacity) :
    ∃ cache : LruCache κ α, new capacity = .ok cache ∧
      ∀ calls, cache.answers calls = RecencyList.empty.answers capacity calls :=
  ⟨empty capacity, if_neg (Nat.ne_of_gt positive), fun calls =>
    (represents_empty capacity).answers positive calls⟩

theorem answers_capacity_two :
    ∃ cache : LruCache Nat Char, new 2 = .ok cache ∧
      cache.answers [.testAndSet 1 'a', .testAndSet 2 'b', .testAndSet 1 'c', .testAndSet 3 'd',
          .get 2, .get 1, .size] =
        [.value none, .value none, .value (some 'a'), .value none, .value none, .value (some 'c'),
          .size 2] := by
  obtain ⟨cache, hn, ha⟩ := answers_eq_recencyList (κ := Nat) (α := Char) 2 (by decide)
  refine ⟨cache, hn, ?_⟩
  rw [ha]
  rfl

end Rollout.LruCache
