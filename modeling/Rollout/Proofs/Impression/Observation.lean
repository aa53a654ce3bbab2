import Rollout.Impression.Observer
import Rollout.Proofs.Impression.History
import Rollout.Proofs.Impression.Representation

namespace Rollout

def Impression.unlinked (i : Impression) : Impression := { i with previousTime := none }

namespace ImpressionObserver

def settings (seen : List Impression) : List (UInt64 × Int64) := seen.map fun i => (i.hash, i.time)

structure Remembers (o : ImpressionObserver) (capacity : Nat) (seen : List Impression) : Prop where
  capacity_eq : o.cache.capacity = capacity
  represents : ∃ order,
    LruCache.Represents o.cache order (RecencyList.ofHistory capacity (settings seen)).entries

variable {o : ImpressionObserver} {capacity : Nat} {seen : List Impression}

lemma remembers_new (positive : 0 < capacity) :
    ∃ o, new capacity = .ok o ∧ Remembers o capacity [] := by
  refine ⟨⟨LruCache.empty capacity⟩, ?_, rfl, [], ?_⟩
  · rw [new, LruCache.new, if_neg (Nat.ne_of_gt positive)]
    rfl
  · have he : (RecencyList.ofHistory capacity (settings [])).entries = [] := List.take_nil
    rw [he]
    exact LruCache.represents_empty capacity

lemma Remembers.testAndSet (h : Remembers o capacity seen) (positive : 0 < capacity)
    (i : Impression) :
    (o.testAndSet i).1 = { i with previousTime := remembered capacity (settings seen) i.hash } ∧
      Remembers (o.testAndSet i).2 capacity (i :: seen) := by
  obtain ⟨hc, order, hr⟩ := h
  have hfst : (o.cache.testAndSet i.hash i.time).1 = remembered capacity (settings seen) i.hash := by
    rw [LruCache.testAndSet_fst, hr.get?_eq, RecencyList.get?_ofHistory]
  refine ⟨?_, (LruCache.capacity_testAndSet _ _ _).trans hc, ?_⟩
  · rw [← hfst]
    rfl
  · obtain ⟨order', hr'⟩ := hr.testAndSet (hc ▸ positive) i.hash i.time
    refine ⟨order', ?_⟩
    rw [hc] at hr'
    have he : trimTo capacity (moveToFront i.hash i.time
        (RecencyList.ofHistory capacity (settings seen)).entries) =
        (RecencyList.ofHistory capacity (settings (i :: seen))).entries :=
      trimTo_moveToFront_take positive i.hash i.time (settings seen)
    rw [he] at hr'
    exact hr'

end ImpressionObserver

end Rollout
