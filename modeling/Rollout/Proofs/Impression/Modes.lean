import Rollout.Proofs.Impression.Batches
import Rollout.Proofs.Impression.Storage

namespace Rollout

section Observed

variable (items : List ImpressionWithAttributes)

lemma ImpressionObserver.unlinked_observe (o : ImpressionObserver) :
    (o.observe items).1.map (Prod.map Impression.unlinked id) =
      items.map (Prod.map Impression.unlinked id) := by
  induction items generalizing o with
  | nil => rfl
  | cons item rest ih =>
    simp only [observe, List.map_cons, ih]
    rfl

lemma Counter.track_unlinked (c : Counter) (inc : UInt64) :
    c.track ((items.map (Prod.map Impression.unlinked id)).map Prod.fst) inc =
      c.track (items.map Prod.fst) inc := by
  simp only [track, List.map_map, List.foldl_map]
  rfl

end Observed

namespace ImpressionsManager

def result (m : ImpressionsManager) (b : Batch) : ProcessedImpressions :=
  (m.process b.now b.items).1

def next (m : ImpressionsManager) (b : Batch) : ImpressionsManager :=
  (m.process b.now b.items).2.2

def after (m : ImpressionsManager) (batches : List Batch) : ImpressionsManager :=
  batches.foldl next m

section Listener

variable (m : ImpressionsManager) (b : Batch) (l : Option ImpressionListener)

lemma strategy_next : (m.next b).strategy = (m.strategy.route b.now b.items).2 := rfl

lemma counter_next : (m.next b).counter = m.counter.track (m.result b).counted 1 := rfl

lemma uniqueKeys_next : (m.next b).uniqueKeys = m.uniqueKeys.trackAll (m.result b).uniqueKeys := rfl

end Listener

section Modes

variable {m : ImpressionsManager} {o : ImpressionObserver}

lemma result_of_optimized (h : m.strategy = .optimized o) (b : Batch) :
    let observed := (o.observe b.items).1
    m.result b =
      { toStore := (observed.map Prod.fst).filter (Strategy.shouldStore (Time.startOfHour b.now))
        toListener := observed
        counted := observed.map Prod.fst
        uniqueKeys := [] } := by
  simp only [result, process, Strategy.route, h]

lemma result_of_debug (h : m.strategy = .debug o) (b : Batch) :
    let observed := (o.observe b.items).1
    m.result b =
      { toStore := observed.map Prod.fst
        toListener := observed
        counted := []
        uniqueKeys := [] } := by
  simp only [result, process, Strategy.route, h]

lemma result_of_none (h : m.strategy = .none) (b : Batch) :
    m.result b =
      { toStore := []
        toListener := b.items
        counted := b.items.map Prod.fst
        uniqueKeys := (b.items.map Prod.fst).map fun i => (i.matchingKey, i.feature) } := by
  simp only [result, process, Strategy.route, h]

end Modes

end ImpressionsManager

structure Trio where
  optimized : ImpressionsManager
  debug : ImpressionsManager
  storeless : ImpressionsManager

namespace Trio

def next (t : Trio) (b : Batch) : Trio := ⟨t.optimized.next b, t.debug.next b, t.storeless.next b⟩

def after (t : Trio) (batches : List Batch) : Trio :=
  ⟨t.optimized.after batches, t.debug.after batches, t.storeless.after batches⟩

structure Agree (t : Trio) (b : Batch) : Prop where
  observed : (t.optimized.result b).toListener.map (Prod.map Impression.unlinked id) =
    b.items.map (Prod.map Impression.unlinked id)
  debug_toListener : (t.debug.result b).toListener = (t.optimized.result b).toListener
  storeless_toListener : (t.storeless.result b).toListener = b.items
  debug_toStore : (t.debug.result b).toStore = (t.debug.result b).toListener.map Prod.fst
  optimized_toStore :
    (t.optimized.result b).toStore.Sublist ((t.optimized.result b).toListener.map Prod.fst)
  storeless_toStore : (t.storeless.result b).toStore = []
  optimized_counted :
    (t.optimized.result b).counted = (t.optimized.result b).toListener.map Prod.fst
  debug_counted : (t.debug.result b).counted = []
  storeless_counted : (t.storeless.result b).counted = b.items.map Prod.fst
  optimized_uniqueKeys : (t.optimized.result b).uniqueKeys = []
  debug_uniqueKeys : (t.debug.result b).uniqueKeys = []
  storeless_uniqueKeys : (t.storeless.result b).uniqueKeys =
    b.items.map fun i => (i.1.matchingKey, i.1.feature)

/-- What the managers keep, once they have processed `items` from the beginning. -/
structure InStep (start : Trio) (items : List ImpressionWithAttributes) (t : Trio) : Prop where
  observer : ∃ o, t.optimized.strategy = .optimized o ∧ t.debug.strategy = .debug o
  storeless_strategy : t.storeless.strategy = .none
  optimized_counter : t.optimized.counter = Counter.empty.track (items.map Prod.fst) 1
  debug_counter : t.debug.counter = .empty
  storeless_counter : t.storeless.counter = Counter.empty.track (items.map Prod.fst) 1
  optimized_uniqueKeys : t.optimized.uniqueKeys = start.optimized.uniqueKeys
  debug_uniqueKeys : t.debug.uniqueKeys = start.debug.uniqueKeys
  storeless_uniqueKeys : t.storeless.uniqueKeys =
    start.storeless.uniqueKeys.trackAll (items.map fun i => (i.1.matchingKey, i.1.feature))

variable {start t : Trio} {items : List ImpressionWithAttributes}

lemma InStep.agree (h : InStep start items t) (b : Batch) : t.Agree b := by
  obtain ⟨o, ho, hd⟩ := h.observer
  have hoptimized := ImpressionsManager.result_of_optimized ho b
  have hdebug := ImpressionsManager.result_of_debug hd b
  have hstoreless := ImpressionsManager.result_of_none h.storeless_strategy b
  constructor <;> simp [hoptimized, hdebug, hstoreless, o.unlinked_observe]

lemma InStep.next (h : InStep start items t) (b : Batch) :
    InStep start (items ++ b.items) (t.next b) := by
  obtain ⟨o, ho, hd⟩ := h.observer
  have hb := h.agree b
  have hcount (c : Counter) : c.track (((t.optimized.result b).toListener).map Prod.fst) 1 =
      c.track (b.items.map Prod.fst) 1 := by
    rw [← Counter.track_unlinked, hb.observed, Counter.track_unlinked]
  constructor
  · refine ⟨(o.observe b.items).2, ?_, ?_⟩
    · simp only [Trio.next, ImpressionsManager.strategy_next, ho, Strategy.route]
    · simp only [Trio.next, ImpressionsManager.strategy_next, hd, Strategy.route]
  · simp only [Trio.next, ImpressionsManager.strategy_next, h.storeless_strategy, Strategy.route]
  · rw [List.map_append, Counter.track_append, ← h.optimized_counter, ← hcount,
      ← hb.optimized_counted]
    rfl
  · simp [Trio.next, ImpressionsManager.counter_next, hb.debug_counted, h.debug_counter,
      Counter.track]
  · rw [List.map_append, Counter.track_append, ← h.storeless_counter, ← hb.storeless_counted]
    rfl
  · simp only [Trio.next, ImpressionsManager.uniqueKeys_next, hb.optimized_uniqueKeys]
    exact h.optimized_uniqueKeys
  · simp only [Trio.next, ImpressionsManager.uniqueKeys_next, hb.debug_uniqueKeys]
    exact h.debug_uniqueKeys
  · rw [List.map_append, UniqueKeysTracker.trackAll_append, ← h.storeless_uniqueKeys,
      ← hb.storeless_uniqueKeys]
    rfl

lemma InStep.after (h : InStep start items t) (batches : List Batch) :
    InStep start (items ++ batches.flatMap Batch.items) (t.after batches) := by
  induction batches generalizing items t with
  | nil => simpa [Trio.after, ImpressionsManager.after] using h
  | cons b rest ih =>
    have hrest := ih (h.next b)
    rw [List.append_assoc] at hrest
    exact hrest

end Trio

end Rollout
