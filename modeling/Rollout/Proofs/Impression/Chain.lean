import Mathlib.Tactic.Common
import Rollout.Impression.LruCache

/-! The chain of the nodes of a cache, as the list of their positions from the newest to the oldest.
-/

namespace Rollout.LruCache

abbrev Links := Nat → Option (Option Nat × Option Nat)

def Linked (links : Links) : Option Nat → List Nat → Option Nat → Prop
  | _, [], _ => True
  | newer, i :: rest, older =>
    links i = some (newer, rest.head?.or older) ∧ Linked links (some i) rest older

section Linked

variable {links links' : Links} {newer older : Option Nat}

lemma linked_append {xs ys : List Nat} :
    Linked links newer (xs ++ ys) older ↔
      Linked links newer xs (ys.head?.or older) ∧ Linked links (xs.getLast?.or newer) ys older := by
  induction xs generalizing newer with
  | nil => simp [Linked]
  | cons i rest ih =>
    have hl : ((i :: rest).getLast?).or newer = rest.getLast?.or (some i) := by
      cases h : rest.getLast? <;> simp [List.getLast?_cons, h]
    rw [List.cons_append, Linked, Linked, ih, hl, List.head?_append, Option.or_assoc, and_assoc]

lemma Linked.congr {xs : List Nat} (h : Linked links newer xs older)
    (hl : ∀ i ∈ xs, links' i = links i) : Linked links' newer xs older := by
  induction xs generalizing newer with
  | nil => trivial
  | cons i rest ih =>
    obtain ⟨hi, hr⟩ := List.forall_mem_cons.mp hl
    exact ⟨hi.trans h.1, ih h.2 hr⟩

lemma Linked.change_newer {xs : List Nat} {newer' : Option Nat} (h : Linked links newer xs older)
    (hn : xs.Nodup) (hl : ∀ i ∈ xs, links' i =
      (links i).map fun l => (if xs.head? = some i then newer' else l.1, l.2)) :
    Linked links' newer' xs older := by
  cases xs with
  | nil => trivial
  | cons i rest =>
    obtain ⟨hi, hr⟩ := List.forall_mem_cons.mp hl
    refine ⟨by simp [hi, h.1], h.2.congr fun j hj => ?_⟩
    have hij : i ≠ j := by
      rintro rfl
      exact (List.nodup_cons.mp hn).1 hj
    simp [hr j hj, hij]

lemma Linked.change_older {xs : List Nat} {older' : Option Nat} (h : Linked links newer xs older)
    (hn : xs.Nodup) (hl : ∀ i ∈ xs, links' i =
      (links i).map fun l => (l.1, if xs.getLast? = some i then older' else l.2)) :
    Linked links' newer xs older' := by
  induction xs generalizing newer with
  | nil => trivial
  | cons i rest ih =>
    obtain ⟨hi, hr⟩ := List.forall_mem_cons.mp hl
    obtain ⟨hir, hn⟩ := List.nodup_cons.mp hn
    cases rest with
    | nil => exact ⟨by simp [hi, h.1], trivial⟩
    | cons k rest =>
      have hlast : ((i :: k :: rest).getLast?) = (k :: rest).getLast? := by
        simp [List.getLast?_cons]
      have hne : (k :: rest).getLast? ≠ some i := fun hl => hir (List.mem_of_getLast? hl)
      rw [hlast] at hi hr
      exact ⟨by simp [hi, h.1, hne], ih h.2 hn hr⟩

end Linked

variable {κ α : Type} [BEq κ] [Hashable κ]

def linksAt? (c : LruCache κ α) : Links := fun i => c.nodes[i]?.map fun node => (node.newer, node.older)

def entryAt? (c : LruCache κ α) (i : Nat) : Option (κ × α) :=
  c.nodes[i]?.map fun node => (node.key, node.value)

structure Chained (c : LruCache κ α) (order : List Nat) : Prop where
  nodup : order.Nodup
  linked : Linked c.linksAt? none order none
  newest : c.newest = order.head?
  oldest : c.oldest = order.getLast?

structure SameEntries (c d : LruCache κ α) : Prop where
  capacity : d.capacity = c.capacity
  size : d.nodes.size = c.nodes.size
  index : d.index = c.index
  entryAt? : ∀ i, d.entryAt? i = c.entryAt? i

lemma SameEntries.trans {c d e : LruCache κ α} (h : SameEntries c d) (h' : SameEntries d e) :
    SameEntries c e :=
  ⟨h'.capacity.trans h.capacity, h'.size.trans h.size, h'.index.trans h.index,
    fun i => (h'.entryAt? i).trans (h.entryAt? i)⟩

lemma linksAt?_modifyNode (c : LruCache κ α) (i j : Nat) (f : LruNode κ α → LruNode κ α) :
    (c.modifyNode i f).linksAt? j =
      if i = j then c.nodes[j]?.map fun node => ((f node).newer, (f node).older)
      else c.linksAt? j := by
  rw [linksAt?, modifyNode, Array.getElem?_modify]
  split <;> simp [linksAt?, Function.comp_def]

lemma entryAt?_modifyNode (c : LruCache κ α) (i j : Nat) (f : LruNode κ α → LruNode κ α) :
    (c.modifyNode i f).entryAt? j =
      if i = j then c.nodes[j]?.map fun node => ((f node).key, (f node).value)
      else c.entryAt? j := by
  rw [entryAt?, modifyNode, Array.getElem?_modify]
  split <;> simp [entryAt?, Function.comp_def]

lemma sameEntries_modifyNode (c : LruCache κ α) (i : Nat) {f : LruNode κ α → LruNode κ α}
    (h : ∀ node, (f node).key = node.key ∧ (f node).value = node.value) :
    SameEntries c (c.modifyNode i f) := by
  refine ⟨rfl, Array.size_modify, rfl, fun j => ?_⟩
  rw [entryAt?_modifyNode]
  split
  · simp [entryAt?, h]
  · rfl

lemma sameEntries_setOlder (c : LruCache κ α) (i older : Option Nat) :
    SameEntries c (c.setOlder i older) := by
  cases i with
  | none => exact ⟨rfl, rfl, rfl, fun _ => rfl⟩
  | some i => exact sameEntries_modifyNode c i fun _ => ⟨rfl, rfl⟩

lemma sameEntries_setNewer (c : LruCache κ α) (i newer : Option Nat) :
    SameEntries c (c.setNewer i newer) := by
  cases i with
  | none => exact ⟨rfl, rfl, rfl, fun _ => rfl⟩
  | some i => exact sameEntries_modifyNode c i fun _ => ⟨rfl, rfl⟩

lemma linksAt?_setOlder (c : LruCache κ α) (i older : Option Nat) (j : Nat) :
    (c.setOlder i older).linksAt? j =
      (c.linksAt? j).map fun l => (l.1, if i = some j then older else l.2) := by
  cases i with
  | none => simp [setOlder, linksAt?, Function.comp_def]
  | some i =>
    rw [setOlder, linksAt?_modifyNode]
    by_cases h : i = j <;> simp [h, linksAt?, Function.comp_def]

lemma linksAt?_setNewer (c : LruCache κ α) (i newer : Option Nat) (j : Nat) :
    (c.setNewer i newer).linksAt? j =
      (c.linksAt? j).map fun l => (if i = some j then newer else l.1, l.2) := by
  cases i with
  | none => simp [setNewer, linksAt?, Function.comp_def]
  | some i =>
    rw [setNewer, linksAt?_modifyNode]
    by_cases h : i = j <;> simp [h, linksAt?, Function.comp_def]

lemma sameEntries_unlink (c : LruCache κ α) (i : Nat) : SameEntries c (c.unlink i) := by
  rw [unlink]
  cases c.nodes[i]? with
  | none => exact ⟨rfl, rfl, rfl, fun _ => rfl⟩
  | some node =>
    exact ((sameEntries_setOlder c _ _).trans (sameEntries_setNewer _ _ _)).trans
      (sameEntries_modifyNode _ i fun _ => ⟨rfl, rfl⟩)

lemma sameEntries_pushNewest (c : LruCache κ α) (i : Nat) : SameEntries c (c.pushNewest i) := by
  have hi : SameEntries c (c.modifyNode i fun node =>
      { node with newer := none, older := c.newest }) :=
    sameEntries_modifyNode c i fun _ => ⟨rfl, rfl⟩
  rw [pushNewest]
  cases hn : c.newest with
  | none =>
    rw [hn] at hi
    exact hi.trans ⟨rfl, rfl, rfl, fun _ => rfl⟩
  | some j =>
    rw [hn] at hi
    exact (hi.trans (sameEntries_setNewer _ _ _)).trans ⟨rfl, rfl, rfl, fun _ => rfl⟩

lemma linksAt?_unlink {c : LruCache κ α} {i j : Nat} {newer older : Option Nat}
    (h : c.linksAt? i = some (newer, older)) (hj : j ≠ i) :
    (c.unlink i).linksAt? j = (c.linksAt? j).map fun l =>
      (if older = some j then newer else l.1, if newer = some j then older else l.2) := by
  obtain ⟨node, hn, hl⟩ := Option.map_eq_some_iff.mp h
  obtain ⟨rfl, rfl⟩ := Prod.mk.inj hl
  rw [unlink, hn]
  simp only [linksAt?_modifyNode, if_neg hj.symm, linksAt?_setNewer, linksAt?_setOlder,
    Option.map_map]
  rfl

lemma newest_unlink {c : LruCache κ α} {i : Nat} {newer older : Option Nat}
    (h : c.linksAt? i = some (newer, older)) :
    (c.unlink i).newest = if newer = none then older else c.newest := by
  obtain ⟨⟨key, value, newer, older⟩, hn, hl⟩ := Option.map_eq_some_iff.mp h
  obtain ⟨rfl, rfl⟩ := Prod.mk.inj hl
  rw [unlink, hn]
  cases newer <;> cases older <;> rfl

lemma oldest_unlink {c : LruCache κ α} {i : Nat} {newer older : Option Nat}
    (h : c.linksAt? i = some (newer, older)) :
    (c.unlink i).oldest = if older = none then newer else c.oldest := by
  obtain ⟨⟨key, value, newer, older⟩, hn, hl⟩ := Option.map_eq_some_iff.mp h
  obtain ⟨rfl, rfl⟩ := Prod.mk.inj hl
  rw [unlink, hn]
  cases newer <;> cases older <;> rfl

lemma Chained.unlink {c : LruCache κ α} {before after : List Nat} {i : Nat}
    (h : Chained c (before ++ i :: after)) : Chained (c.unlink i) (before ++ after) := by
  obtain ⟨hn, hl, hnew, hold⟩ := h
  obtain ⟨hb, hi, ha⟩ := linked_append.mp hl
  simp only [Option.or_none] at hi ha hb
  obtain ⟨hnb, hna, hdisj⟩ := List.nodup_append.mp hn
  obtain ⟨hia, hna⟩ := List.nodup_cons.mp hna
  have hib : i ∉ before := fun hm => hdisj i hm i List.mem_cons_self rfl
  have hba : ∀ j ∈ before, j ∉ after := fun j hj hm => hdisj j hj j (List.mem_cons_of_mem _ hm) rfl
  refine ⟨?_, linked_append.mpr ⟨?_, ?_⟩, ?_, ?_⟩
  · exact hn.sublist (List.Sublist.append_left (List.sublist_cons_self i after) before)
  · refine hb.change_older hnb fun j hj => ?_
    have hne : after.head? ≠ some j := fun hh => hba j hj (List.mem_of_head? hh)
    rw [linksAt?_unlink hi (by rintro rfl; exact hib hj)]
    simp [hne]
  · refine ha.change_newer hna fun j hj => ?_
    have hne : before.getLast? ≠ some j := fun hh => hba j (List.mem_of_getLast? hh) hj
    rw [linksAt?_unlink hi (by rintro rfl; exact hia hj)]
    simp [hne]
  · rw [newest_unlink hi, hnew]
    cases before <;> simp
  · rw [oldest_unlink hi, hold]
    cases after <;> simp

lemma linksAt?_pushNewest {c : LruCache κ α} {i j : Nat} (hj : j ≠ i) :
    (c.pushNewest i).linksAt? j =
      (c.linksAt? j).map fun l => (if c.newest = some j then some i else l.1, l.2) := by
  rw [pushNewest]
  cases c.newest with
  | none =>
    change (c.modifyNode i _).linksAt? j = _
    rw [linksAt?_modifyNode, if_neg hj.symm]
    simp
  | some k =>
    change ((c.modifyNode i _).setNewer (some k) (some i)).linksAt? j = _
    rw [linksAt?_setNewer, linksAt?_modifyNode, if_neg hj.symm]

lemma linksAt?_pushNewest_self {c : LruCache κ α} {i : Nat} (hi : i < c.nodes.size)
    (hn : c.newest ≠ some i) : (c.pushNewest i).linksAt? i = some (none, c.newest) := by
  rw [pushNewest]
  cases h : c.newest with
  | none =>
    change (c.modifyNode i _).linksAt? i = _
    rw [linksAt?_modifyNode, if_pos rfl, Array.getElem?_eq_getElem hi]
    rfl
  | some k =>
    change ((c.modifyNode i _).setNewer (some k) (some i)).linksAt? i = _
    rw [linksAt?_setNewer, linksAt?_modifyNode, if_pos rfl, Array.getElem?_eq_getElem hi]
    simp [h ▸ hn]

lemma newest_pushNewest (c : LruCache κ α) (i : Nat) : (c.pushNewest i).newest = some i := rfl

lemma oldest_pushNewest (c : LruCache κ α) (i : Nat) :
    (c.pushNewest i).oldest = if c.oldest.isNone then some i else c.oldest := by
  rw [pushNewest]
  cases c.newest <;> rfl

lemma Chained.pushNewest {c : LruCache κ α} {order : List Nat} {i : Nat} (h : Chained c order)
    (hi : i < c.nodes.size) (fresh : i ∉ order) : Chained (c.pushNewest i) (i :: order) := by
  obtain ⟨hn, hl, hnew, hold⟩ := h
  have hne : c.newest ≠ some i := by
    rw [hnew]
    exact fun hh => fresh (List.mem_of_head? hh)
  refine ⟨List.nodup_cons.mpr ⟨fresh, hn⟩, ⟨?_, ?_⟩, newest_pushNewest c i, ?_⟩
  · rw [linksAt?_pushNewest_self hi hne, hnew, Option.or_none]
  · refine hl.change_newer hn fun j hj => ?_
    rw [linksAt?_pushNewest (by rintro rfl; exact fresh hj), hnew]
  · rw [oldest_pushNewest, hold]
    cases order <;> simp [List.getLast?_cons]

end Rollout.LruCache
