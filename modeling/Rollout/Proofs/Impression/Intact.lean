import Mathlib.Data.List.Induction
import Rollout.Proofs.Impression.Representation

/-! The operations of a cache are written a second time with every access to a node checked, and no
check ever fails. -/

namespace Rollout

def RecencyList.after {κ α : Type} [DecidableEq κ] (l : RecencyList κ α) (capacity : Nat)
    (calls : List (CacheCall κ α)) : RecencyList κ α :=
  calls.foldl (fun l call => (l.answer capacity call).2) l

namespace LruCache

section Checked

variable {κ α : Type} [DecidableEq κ] [Hashable κ] (c : LruCache κ α)

def modifyNode? (i : Nat) (f : LruNode κ α → LruNode κ α) : Option (LruCache κ α) :=
  if i < c.nodes.size then some (c.modifyNode i f) else none

def setOlder? (i older : Option Nat) : Option (LruCache κ α) :=
  match i with
  | some i => c.modifyNode? i fun node => { node with older }
  | none => some { c with newest := older }

def setNewer? (i newer : Option Nat) : Option (LruCache κ α) :=
  match i with
  | some i => c.modifyNode? i fun node => { node with newer }
  | none => some { c with oldest := newer }

def unlink? (i : Nat) : Option (LruCache κ α) := do
  let node ← c.nodes[i]?
  let c ← c.setOlder? node.newer node.older
  let c ← c.setNewer? node.older node.newer
  c.modifyNode? i fun node => { node with newer := none, older := none }

def pushNewest? (i : Nat) : Option (LruCache κ α) := do
  let newest := c.newest
  let c ← c.modifyNode? i fun node => { node with newer := none, older := newest }
  let c ← match newest with
    | some j => c.setNewer? (some j) (some i)
    | none => some c
  return { c with newest := some i, oldest := if c.oldest.isNone then some i else c.oldest }

def refresh? (i : Nat) (value : α) : Option (LruCache κ α) := do
  let c ← c.modifyNode? i fun node => { node with value }
  let c ← c.unlink? i
  c.pushNewest? i

def append? (key : κ) (value : α) : Option (LruCache κ α) :=
  let i := c.nodes.size
  let c := { c with nodes := c.nodes.push ⟨key, value, none, none⟩, index := c.index.insert key i }
  c.pushNewest? i

def replace? (i : Nat) (key : κ) (value : α) : Option (LruCache κ α) := do
  let c ← c.unlink? i
  let node ← c.nodes[i]?
  let c := { c with index := (c.index.erase node.key).insert key i }
  let c ← c.modifyNode? i fun node => { node with key, value }
  c.pushNewest? i

def testAndSet? (key : κ) (value : α) : Option (Option α × LruCache κ α) :=
  match c.index[key]? with
  | some i => do
    let node ← c.nodes[i]?
    let c ← c.refresh? i value
    return (some node.value, c)
  | none =>
    if c.nodes.size < c.capacity then do
      let c ← c.append? key value
      return (none, c)
    else do
      let i ← c.oldest
      let c ← c.replace? i key value
      return (none, c)

def lookup? (key : κ) : Option (Option α) :=
  match c.index[key]? with
  | some i => do
    let node ← c.nodes[i]?
    return some node.value
  | none => some none

def answer? : CacheCall κ α → Option (CacheAnswer α × LruCache κ α)
  | .testAndSet key value => do
    let (previous, c) ← c.testAndSet? key value
    return (.value previous, c)
  | .get key => do
    let value ← c.lookup? key
    return (.value value, c)
  | .size => some (.size c.size, c)

end Checked

variable {κ α : Type} [DecidableEq κ] [Hashable κ] {c : LruCache κ α} {i : Nat}

section Steps

lemma modifyNode?_eq (hi : i < c.nodes.size) (f : LruNode κ α → LruNode κ α) :
    c.modifyNode? i f = some (c.modifyNode i f) := if_pos hi

lemma setOlder?_eq {i : Option Nat} (hi : ∀ j ∈ i, j < c.nodes.size) (older : Option Nat) :
    c.setOlder? i older = some (c.setOlder i older) := by
  cases i with
  | none => rfl
  | some j => exact modifyNode?_eq (hi j rfl) _

lemma setNewer?_eq {i : Option Nat} (hi : ∀ j ∈ i, j < c.nodes.size) (newer : Option Nat) :
    c.setNewer? i newer = some (c.setNewer i newer) := by
  cases i with
  | none => rfl
  | some j => exact modifyNode?_eq (hi j rfl) _

lemma unlink?_eq {newer older : Option Nat} (hi : c.linksAt? i = some (newer, older))
    (hnewer : ∀ j ∈ newer, j < c.nodes.size) (holder : ∀ j ∈ older, j < c.nodes.size) :
    c.unlink? i = some (c.unlink i) := by
  obtain ⟨node, hn, hl⟩ := Option.map_eq_some_iff.mp hi
  obtain ⟨rfl, rfl⟩ := Prod.mk.inj hl
  have hsize := (sameEntries_setOlder c node.newer node.older).size
  have hsize' := (sameEntries_setNewer (c.setOlder node.newer node.older) node.older node.newer).size
  have hlt := (Array.getElem?_eq_some_iff.mp hn).1
  have hfirst := setOlder?_eq hnewer node.older
  have hsecond := setNewer?_eq (c := c.setOlder node.newer node.older) (by rwa [hsize]) node.newer
  have hthird := modifyNode?_eq (c := (c.setOlder node.newer node.older).setNewer node.older node.newer)
    (by rwa [hsize', hsize]) fun node => { node with newer := none, older := none }
  simp only [unlink?, unlink, hn, Option.bind_eq_bind, Option.bind_some, hfirst, hsecond, hthird]

lemma pushNewest?_eq (hi : i < c.nodes.size) (hnewest : ∀ j ∈ c.newest, j < c.nodes.size) :
    c.pushNewest? i = some (c.pushNewest i) := by
  rw [pushNewest?, pushNewest, modifyNode?_eq hi]
  cases hn : c.newest with
  | none => rfl
  | some j =>
    have hj : ∀ k ∈ some j, k < (c.modifyNode i fun node =>
        { node with newer := none, older := some j }).nodes.size := by
      rw [modifyNode, Array.size_modify, ← hn]
      exact hnewest
    simp only [Option.bind_eq_bind, Option.bind_some, setNewer?_eq hj]
    rfl

end Steps

section Chain

variable {order before after : List Nat} {entries : List (κ × α)} {key : κ} {value old : α}

lemma Chained.exists_linksAt? (h : Chained c (before ++ i :: after)) :
    ∃ newer older, c.linksAt? i = some (newer, older) ∧ (∀ j ∈ newer, j ∈ before) ∧
      ∀ j ∈ older, j ∈ after := by
  obtain ⟨-, hi, -⟩ := linked_append.mp h.linked
  rw [Option.or_none, Option.or_none] at hi
  exact ⟨_, _, hi, fun j hj => List.mem_of_getLast? hj, fun j hj => List.mem_of_head? hj⟩

lemma Chained.unlink?_eq (h : Chained c (before ++ i :: after))
    (hlt : ∀ j ∈ before ++ i :: after, j < c.nodes.size) : c.unlink? i = some (c.unlink i) := by
  obtain ⟨newer, older, hi, hnewer, holder⟩ := h.exists_linksAt?
  apply LruCache.unlink?_eq hi
  · exact fun j hj => hlt j (List.mem_append_left _ (hnewer j hj))
  · exact fun j hj => hlt j (List.mem_append_right _ (List.mem_cons_of_mem _ (holder j hj)))

lemma Chained.pushNewest?_eq (h : Chained c order) (hlt : ∀ j ∈ order, j < c.nodes.size)
    (hi : i < c.nodes.size) : c.pushNewest? i = some (c.pushNewest i) := by
  apply LruCache.pushNewest?_eq hi
  rw [h.newest]
  exact fun j hj => hlt j (List.mem_of_head? hj)

lemma Represents.refresh?_eq (h : Represents c (before ++ i :: after) entries) (value : α) :
    c.refresh? i value = some (c.refresh i value) := by
  have hlt : ∀ j ∈ before ++ i :: after, j < c.nodes.size := fun _ => h.mem_order.mp
  have hi : i < c.nodes.size := hlt i (List.mem_append_right _ List.mem_cons_self)
  let d := c.modifyNode i fun node => { node with value }
  have hd : Chained d (before ++ i :: after) := h.chained.modifyNode i fun _ => ⟨rfl, rfl⟩
  have hdsize : d.nodes.size = c.nodes.size := Array.size_modify
  have husize : (d.unlink i).nodes.size = c.nodes.size := (sameEntries_unlink d i).size.trans hdsize
  have hunlink : d.unlink? i = some (d.unlink i) := by
    apply hd.unlink?_eq
    rwa [hdsize]
  have hpush : (d.unlink i).pushNewest? i = some ((d.unlink i).pushNewest i) := by
    apply hd.unlink.pushNewest?_eq
    · intro j hj
      rw [husize]
      apply hlt
      rcases List.mem_append.mp hj with hj | hj
      · exact List.mem_append_left _ hj
      · exact List.mem_append_right _ (List.mem_cons_of_mem _ hj)
    · rwa [husize]
  rw [refresh?, modifyNode?_eq hi, Option.bind_eq_bind, Option.bind_some, hunlink]
  exact hpush

lemma Represents.append?_eq (h : Represents c order entries) (key : κ) (value : α) :
    c.append? key value = some (c.append key value) := by
  have hsize : (c.nodes.push ⟨key, value, none, none⟩).size = c.nodes.size + 1 := Array.size_push _
  apply LruCache.pushNewest?_eq
  · exact Nat.lt_of_lt_of_eq (Nat.lt_succ_self _) hsize.symm
  · intro j hj
    have hlt : j < c.nodes.size := h.mem_order.mp (List.mem_of_head? (h.chained.newest ▸ hj))
    exact Nat.lt_of_lt_of_eq (Nat.lt_succ_of_lt hlt) hsize.symm

lemma Represents.replace?_eq (h : Represents c (before ++ [i]) entries) (key : κ) (value : α) :
    c.replace? i key value = some (c.replace i key value) := by
  have hlt : ∀ j ∈ before ++ [i], j < c.nodes.size := fun _ => h.mem_order.mp
  have hi : i < c.nodes.size := hlt i (List.mem_append_right _ List.mem_cons_self)
  have husize : (c.unlink i).nodes.size = c.nodes.size := (sameEntries_unlink c i).size
  have hiu : i < (c.unlink i).nodes.size := Nat.lt_of_lt_of_eq hi husize.symm
  have hu : Chained (c.unlink i) before := by
    simpa using h.chained.unlink
  let node := (c.unlink i).nodes[i]
  let d : LruCache κ α :=
    { c.unlink i with index := ((c.unlink i).index.erase node.key).insert key i }
  have hd : Chained d before := ⟨hu.nodup, hu.linked, hu.newest, hu.oldest⟩
  have hmodify : d.modifyNode? i (fun node => { node with key, value }) =
      some (d.modifyNode i fun node => { node with key, value }) := if_pos hiu
  have hpush := (hd.modifyNode i (f := fun node => { node with key, value })
    fun _ => ⟨rfl, rfl⟩).pushNewest?_eq (i := i)
      (fun j hj => by
        rw [modifyNode, Array.size_modify, husize]
        exact hlt j (List.mem_append_left _ hj))
      (by rwa [modifyNode, Array.size_modify])
  have hnode : (c.unlink i).nodes[i]? = some node := Array.getElem?_eq_getElem hiu
  rw [replace?, h.chained.unlink?_eq hlt, Option.bind_eq_bind, Option.bind_some, hnode,
    Option.bind_eq_bind, Option.bind_some, LruCache.replace]
  simp only [hnode]
  change (d.modifyNode? i _).bind _ = some ((d.modifyNode i _).pushNewest i)
  rw [hmodify]
  exact hpush

lemma Represents.exists_oldest (h : Represents c order entries) (hc : 0 < c.capacity)
    (hfull : c.capacity ≤ c.nodes.size) : ∃ before i, order = before ++ [i] ∧ c.oldest = some i := by
  -- A full cache is not empty.
  have hne : order ≠ [] := List.ne_nil_of_mem (h.mem_order.mpr (Nat.lt_of_lt_of_le hc hfull))
  obtain ⟨before, i, rfl⟩ := (List.eq_nil_or_concat order).resolve_left hne
  rw [List.concat_eq_append] at h ⊢
  refine ⟨before, i, rfl, ?_⟩
  rw [h.chained.oldest, List.getLast?_concat]

lemma Represents.exists_node (h : Represents c order entries) (hk : c.index[key]? = some i) :
    ∃ before after node, order = before ++ i :: after ∧ c.nodes[i]? = some node := by
  obtain ⟨old, hi⟩ := (h.indexed.getElem?_eq key i).mp hk
  obtain ⟨before, after, rfl⟩ := List.append_of_mem (h.mem_order.mpr (lt_of_entryAt? hi))
  exact ⟨before, after, _, rfl, Array.getElem?_eq_getElem (lt_of_entryAt? hi)⟩

lemma Represents.testAndSet?_eq (h : Represents c order entries) (hc : 0 < c.capacity) (key : κ)
    (value : α) : c.testAndSet? key value = some (c.testAndSet key value) := by
  rw [testAndSet?, LruCache.testAndSet]
  cases hk : c.index[key]? with
  | some i =>
    obtain ⟨before, after, node, rfl, hnode⟩ := h.exists_node hk
    simp only [hnode, h.refresh?_eq value]
    rfl
  | none =>
    by_cases hsize : c.nodes.size < c.capacity
    · simp only [if_pos hsize, h.append?_eq key value]
      rfl
    · obtain ⟨before, i, rfl, hold⟩ := h.exists_oldest hc (Nat.le_of_not_lt hsize)
      simp only [if_neg hsize, hold, Option.bind_eq_bind, Option.bind_some, h.replace?_eq key value]
      rfl

lemma Represents.lookup?_eq (h : Represents c order entries) (key : κ) :
    c.lookup? key = some (c.get? key) := by
  rw [lookup?, get?]
  cases hk : c.index[key]? with
  | none => rfl
  | some i =>
    obtain ⟨-, -, node, -, hnode⟩ := h.exists_node hk
    simp only [hnode]
    rfl

lemma Represents.answer?_eq (h : Represents c order entries) (hc : 0 < c.capacity)
    (call : CacheCall κ α) : c.answer? call = some (c.answer call) := by
  cases call with
  | testAndSet key value =>
    rw [answer?, h.testAndSet?_eq hc]
    rfl
  | get key =>
    rw [answer?, h.lookup?_eq]
    rfl
  | size => rfl

end Chain

inductive Visits (next : Nat → Option (Option Nat)) : Option Nat → List Nat → Prop
  | stop : Visits next none []
  | step {i : Nat} {after : Option Nat} {rest : List Nat} :
      next i = some after → Visits next after rest → Visits next (some i) (i :: rest)

section Visits

variable {links : Links} {newer older : Option Nat} {xs : List Nat}

lemma Linked.visits_older (h : Linked links newer xs none) :
    Visits (fun i => (links i).map Prod.snd) xs.head? xs := by
  induction xs generalizing newer with
  | nil => exact .stop
  | cons i rest ih =>
    have hnext : (links i).map Prod.snd = some rest.head? := by
      rw [h.1, Option.or_none]
      rfl
    exact .step hnext (ih h.2)

lemma Linked.visits_newer (h : Linked links none xs older) :
    Visits (fun i => (links i).map Prod.fst) xs.getLast? xs.reverse := by
  induction xs using List.reverseRecOn generalizing older with
  | nil => exact .stop
  | append_singleton rest i ih =>
    obtain ⟨hrest, hi, -⟩ := linked_append.mp h
    rw [List.getLast?_concat, List.reverse_concat]
    have hnext : (links i).map Prod.fst = some rest.getLast? := by
      rw [hi, Option.or_none]
      rfl
    exact .step hnext (ih hrest)

end Visits

def Keeps (c : LruCache κ α) (i : Nat) : Prop :=
  c.newest = some i ∨ c.oldest = some i ∨ (∃ key : κ, c.index[key]? = some i) ∨
    ∃ node ∈ c.nodes, node.newer = some i ∨ node.older = some i

/-- What holds of a cache between two calls. -/
structure Intact (capacity : Nat) (c : LruCache κ α) : Prop where
  chain : ∃ order, order.Perm (List.range c.nodes.size) ∧
    Visits (fun i => c.nodes[i]?.map LruNode.older) c.newest order ∧ c.oldest = order.getLast? ∧
    Visits (fun i => c.nodes[i]?.map LruNode.newer) c.oldest order.reverse
  index : ∀ (key : κ) (i : Nat), c.index[key]? = some i ↔ c.nodes[i]?.map LruNode.key = some key
  size : c.nodes.size = c.index.size
  bound : c.nodes.size ≤ capacity
  within : ∀ i, c.Keeps i → i < c.nodes.size
  full : capacity ≤ c.nodes.size → c.oldest ≠ none

section Intact

variable {order : List Nat} {entries : List (κ × α)}

lemma map_snd_linksAt? (c : LruCache κ α) :
    (fun i => (c.linksAt? i).map Prod.snd) = fun i => c.nodes[i]?.map LruNode.older := by
  funext i
  rw [linksAt?, Option.map_map]
  rfl

lemma map_fst_linksAt? (c : LruCache κ α) :
    (fun i => (c.linksAt? i).map Prod.fst) = fun i => c.nodes[i]?.map LruNode.newer := by
  funext i
  rw [linksAt?, Option.map_map]
  rfl

lemma Represents.mem_of_link (h : Represents c order entries) {node : LruNode κ α}
    (hnode : node ∈ c.nodes) (hi : node.newer = some i ∨ node.older = some i) : i ∈ order := by
  obtain ⟨j, hlt, rfl⟩ := Array.mem_iff_getElem.mp hnode
  obtain ⟨before, after, rfl⟩ := List.append_of_mem (h.mem_order.mpr hlt)
  obtain ⟨newer, older, hj, hnewer, holder⟩ := h.chained.exists_linksAt?
  rw [linksAt?, Array.getElem?_eq_getElem hlt, Option.map_some] at hj
  obtain ⟨rfl, rfl⟩ := Prod.mk.inj (Option.some.inj hj)
  rcases hi with hi | hi
  · exact List.mem_append_left _ (hnewer i hi)
  · exact List.mem_append_right _ (List.mem_cons_of_mem _ (holder i hi))

lemma Represents.lt_of_keeps (h : Represents c order entries) (hi : c.Keeps i) : i < c.nodes.size := by
  rcases hi with hi | hi | ⟨key, hi⟩ | ⟨node, hnode, hi⟩
  · exact h.mem_order.mp (List.mem_of_head? (h.chained.newest ▸ hi))
  · exact h.mem_order.mp (List.mem_of_getLast? (h.chained.oldest ▸ hi))
  · obtain ⟨value, hentry⟩ := (h.indexed.getElem?_eq key i).mp hi
    exact lt_of_entryAt? hentry
  · exact h.mem_order.mp (h.mem_of_link hnode hi)

lemma Represents.intact (h : Represents c order entries) (hc : 0 < c.capacity) :
    Intact c.capacity c where
  chain := by
    have holder := h.chained.linked.visits_older
    have hnewer := h.chained.linked.visits_newer
    rw [map_snd_linksAt?, ← h.chained.newest] at holder
    rw [map_fst_linksAt?, ← h.chained.oldest] at hnewer
    exact ⟨order, h.slots, holder, h.chained.oldest, hnewer⟩
  index key i := by
    rw [h.indexed.getElem?_eq, entryAt?]
    cases c.nodes[i]? with
    | none => simp
    | some node => simp
  size := h.indexed.size.symm
  bound := h.bound
  within _ := h.lt_of_keeps
  full hfull := by
    obtain ⟨before, i, -, hold⟩ := h.exists_oldest hc hfull
    rw [hold]
    exact Option.some_ne_none i

end Intact

def after (c : LruCache κ α) (calls : List (CacheCall κ α)) : LruCache κ α :=
  calls.foldl (fun c call => (c.answer call).2) c

lemma Represents.after {l : RecencyList κ α} {order : List Nat} (h : Represents c order l.entries)
    (hc : 0 < c.capacity) (calls : List (CacheCall κ α)) :
    (c.after calls).capacity = c.capacity ∧
      ∃ order, Represents (c.after calls) order (l.after c.capacity calls).entries := by
  induction calls generalizing c l order with
  | nil => exact ⟨rfl, order, h⟩
  | cons call rest ih =>
    obtain ⟨-, hcapacity, order', h'⟩ := h.answer hc call
    obtain ⟨hrest, hrepresents⟩ := ih h' (by rwa [hcapacity])
    rw [hcapacity] at hrepresents
    exact ⟨hrest.trans hcapacity, hrepresents⟩

theorem intact_after (capacity : Nat) (positive : 0 < capacity) :
    ∃ cache : LruCache κ α, new capacity = .ok cache ∧ ∀ calls, Intact capacity (cache.after calls) ∧
      ∀ call, (cache.after calls).answer? call = some ((cache.after calls).answer call) := by
  refine ⟨empty capacity, if_neg (Nat.ne_of_gt positive), fun calls => ?_⟩
  have hempty : Represents (empty capacity : LruCache κ α) [] RecencyList.empty.entries :=
    represents_empty capacity
  obtain ⟨hcapacity, order, h⟩ := hempty.after positive calls
  have hpositive : 0 < ((empty capacity : LruCache κ α).after calls).capacity := by rwa [hcapacity]
  have hintact := h.intact hpositive
  rw [hcapacity] at hintact
  exact ⟨hintact, h.answer?_eq hpositive⟩

theorem intact_after_eviction :
    ∃ cache : LruCache Nat Char, new 2 = .ok cache ∧
      let c := cache.after [.testAndSet 1 'a', .testAndSet 2 'b', .testAndSet 1 'c', .testAndSet 3 'd']
      Intact 2 c ∧ c.get? 2 = none ∧ c.get? 1 = some 'c' ∧ c.nodes.size = 2 ∧
        c.answer? (.testAndSet 2 'e') = some (c.answer (.testAndSet 2 'e')) := by
  obtain ⟨cache, hnew, h⟩ := intact_after (κ := Nat) (α := Char) 2 (by decide)
  obtain rfl : empty 2 = cache := Except.ok.inj hnew
  have hempty : Represents (empty 2 : LruCache Nat Char) [] RecencyList.empty.entries :=
    represents_empty 2
  obtain ⟨-, order, hr⟩ := hempty.after (by decide)
    [.testAndSet 1 'a', .testAndSet 2 'b', .testAndSet 1 'c', .testAndSet 3 'd']
  exact ⟨empty 2, hnew, (h _).1, hr.get?_eq 2, hr.get?_eq 1, hr.length_entries.symm, (h _).2 _⟩

end LruCache

end Rollout
