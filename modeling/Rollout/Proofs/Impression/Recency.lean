import Mathlib.Data.List.Nodup
import Rollout.Dictionary
import Rollout.Impression.LruCache

/-! A cache of fixed capacity as the plain list of its entries, the one that was set last in front.
-/

namespace Rollout

variable {κ α : Type}

structure RecencyList (κ α : Type) where
  entries : List (κ × α)
  nodup : (entries.map Prod.fst).Nodup

def trimTo (capacity : Nat) (entries : List (κ × α)) : List (κ × α) :=
  if capacity < entries.length then entries.dropLast else entries

lemma trimTo_sublist (capacity : Nat) (entries : List (κ × α)) :
    (trimTo capacity entries).Sublist entries := by
  rw [trimTo]
  split
  · exact List.dropLast_sublist entries
  · exact List.Sublist.refl entries

variable [DecidableEq κ]

def moveToFront (key : κ) (value : α) (entries : List (κ × α)) : List (κ × α) :=
  (key, value) :: entries.filter fun entry => entry.1 ≠ key

lemma nodup_moveToFront {key : κ} {value : α} {entries : List (κ × α)}
    (h : (entries.map Prod.fst).Nodup) : ((moveToFront key value entries).map Prod.fst).Nodup := by
  rw [moveToFront, List.map_cons, List.nodup_cons]
  refine ⟨?_, h.sublist (List.filter_sublist.map Prod.fst)⟩
  rintro hm
  obtain ⟨entry, he, hk⟩ := List.mem_map.mp hm
  simpa [hk] using (List.mem_filter.mp he).2

lemma filter_ne_eq_self {key : κ} {entries : List (κ × α)} (h : key ∉ entries.map Prod.fst) :
    (entries.filter fun entry => entry.1 ≠ key) = entries := by
  rw [List.filter_eq_self]
  intro entry he
  simpa using fun hk => h (List.mem_map.mpr ⟨entry, he, hk⟩)

namespace RecencyList

def empty : RecencyList κ α := ⟨[], List.nodup_nil⟩

def get? (l : RecencyList κ α) (key : κ) : Option α :=
  (l.entries.find? fun entry => entry.1 = key).map Prod.snd

lemma get?_eq_some_iff (l : RecencyList κ α) {key : κ} {value : α} :
    l.get? key = some value ↔ (key, value) ∈ l.entries :=
  find?_eq_some_iff_mem l.nodup

def testAndSet (capacity : Nat) (l : RecencyList κ α) (key : κ) (value : α) :
    Option α × RecencyList κ α :=
  (l.get? key, ⟨trimTo capacity (moveToFront key value l.entries),
    (nodup_moveToFront l.nodup).sublist ((trimTo_sublist capacity _).map Prod.fst)⟩)

end RecencyList

inductive CacheCall (κ α : Type)
  | testAndSet (key : κ) (value : α)
  | get (key : κ)
  | size

inductive CacheAnswer (α : Type)
  | value (v : Option α)
  | size (n : Nat)
  deriving DecidableEq

def RecencyList.answer (capacity : Nat) (l : RecencyList κ α) :
    CacheCall κ α → CacheAnswer α × RecencyList κ α
  | .testAndSet key value =>
    let (previous, l) := l.testAndSet capacity key value
    (.value previous, l)
  | .get key => (.value (l.get? key), l)
  | .size => (.size l.entries.length, l)

def RecencyList.answers (capacity : Nat) (l : RecencyList κ α) :
    List (CacheCall κ α) → List (CacheAnswer α)
  | [] => []
  | call :: rest =>
    let (a, l) := l.answer capacity call
    a :: l.answers capacity rest

variable [Hashable κ]

def LruCache.answer (c : LruCache κ α) : CacheCall κ α → CacheAnswer α × LruCache κ α
  | .testAndSet key value =>
    let (previous, c) := c.testAndSet key value
    (.value previous, c)
  | .get key => (.value (c.get? key), c)
  | .size => (.size c.size, c)

def LruCache.answers (c : LruCache κ α) : List (CacheCall κ α) → List (CacheAnswer α)
  | [] => []
  | call :: rest =>
    let (a, c) := c.answer call
    a :: c.answers rest

end Rollout
