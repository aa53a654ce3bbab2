import Mathlib.Tactic.Common
import Rollout.Impression.Manager

/-! Everything that a manager does with a batch is a pass over it in order, and each pass hands the
state at a cut on to the rest. -/

namespace Rollout

variable (now : Int64) (xs ys : List ImpressionWithAttributes)

lemma ImpressionObserver.observe_append (o : ImpressionObserver) :
    o.observe (xs ++ ys) =
      ((o.observe xs).1 ++ ((o.observe xs).2.observe ys).1, ((o.observe xs).2.observe ys).2) := by
  induction xs generalizing o with
  | nil => rfl
  | cons x rest ih =>
    obtain ⟨i, attributes⟩ := x
    simp only [List.cons_append, observe, ih]

lemma Counter.track_append (c : Counter) (is js : List Impression) (inc : UInt64) :
    c.track (is ++ js) inc = (c.track is inc).track js inc := by
  rw [track, List.foldl_append]
  rfl

lemma ImpressionListener.hearAll_append (l : ImpressionListener) :
    l.hearAll (xs ++ ys) =
      ((l.hearAll xs).1 ++ ((l.hearAll xs).2.hearAll ys).1, ((l.hearAll xs).2.hearAll ys).2) := by
  induction xs generalizing l with
  | nil => rfl
  | cons x rest ih => simp only [List.cons_append, hearAll, ih]

lemma UniqueKeysTracker.trackAll_append (t : UniqueKeysTracker) (ps qs : List (String × String)) :
    t.trackAll (ps ++ qs) = (t.trackAll ps).trackAll qs := by
  rw [trackAll, List.foldl_append]
  rfl

namespace Routing

def append (r r' : Routing) : Routing where
  toStore := r.toStore ++ r'.toStore
  toListener := r.toListener ++ r'.toListener
  forCounter := r.forCounter ++ r'.forCounter
  forUniqueKeys := r.forUniqueKeys ++ r'.forUniqueKeys

instance : Append Routing := ⟨append⟩

end Routing

lemma Strategy.route_append (s : Strategy) :
    s.route now (xs ++ ys) =
      ((s.route now xs).1 ++ ((s.route now xs).2.route now ys).1,
        ((s.route now xs).2.route now ys).2) := by
  cases s with
  | optimized o =>
    simp only [route, o.observe_append, List.map_append, List.filter_append]
    rfl
  | debug o =>
    simp only [route, o.observe_append, List.map_append]
    rfl
  | none =>
    simp only [route, List.map_append]
    rfl

namespace ProcessedImpressions

def append (p q : ProcessedImpressions) : ProcessedImpressions where
  toStore := p.toStore ++ q.toStore
  toListener := p.toListener ++ q.toListener
  counted := p.counted ++ q.counted
  uniqueKeys := p.uniqueKeys ++ q.uniqueKeys

instance : Append ProcessedImpressions := ⟨append⟩

end ProcessedImpressions

namespace ImpressionsManager

lemma deliver_append (listener : Option ImpressionListener) :
    deliver listener (xs ++ ys) =
      ((deliver listener xs).1 ++ (deliver (deliver listener xs).2 ys).1,
        (deliver (deliver listener xs).2 ys).2) := by
  cases listener with
  | none => rfl
  | some listener => simp only [deliver, listener.hearAll_append]

/-- Two batches at the same time come to the same as both in one: the same results and deliveries in
the same order, and a manager with the same observer, counter and tracker. -/
theorem process_append (m : ImpressionsManager) :
    let (first, heard, m₁) := m.process now xs
    let (second, heard₁, m₂) := m₁.process now ys
    m.process now (xs ++ ys) = (first ++ second, heard ++ heard₁, m₂) := by
  let routing := (m.strategy.route now xs).1
  let strategy := (m.strategy.route now xs).2
  let later := (strategy.route now ys).1
  have hr : m.strategy.route now (xs ++ ys) = (routing ++ later, (strategy.route now ys).2) :=
    m.strategy.route_append now xs ys
  have hd : deliver m.listener (routing ++ later).toListener =
      ((deliver m.listener routing.toListener).1 ++
          (deliver (deliver m.listener routing.toListener).2 later.toListener).1,
        (deliver (deliver m.listener routing.toListener).2 later.toListener).2) :=
    deliver_append routing.toListener later.toListener m.listener
  have hc : m.counter.track (routing ++ later).forCounter 1 =
      (m.counter.track routing.forCounter 1).track later.forCounter 1 :=
    m.counter.track_append routing.forCounter later.forCounter 1
  have hu : m.uniqueKeys.trackAll (routing ++ later).forUniqueKeys =
      (m.uniqueKeys.trackAll routing.forUniqueKeys).trackAll later.forUniqueKeys :=
    m.uniqueKeys.trackAll_append routing.forUniqueKeys later.forUniqueKeys
  show m.process now (xs ++ ys) = _
  rw [process, hr]
  simp only [hd, hc, hu]
  rfl

end ImpressionsManager

end Rollout
