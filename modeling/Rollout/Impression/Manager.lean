import Rollout.Impression.Counter
import Rollout.Impression.Strategy
import Rollout.Impression.UniqueKeys

namespace Rollout

structure ImpressionsSettings where
  mode : ImpressionsMode
  observerCacheSize : Nat := ImpressionObserver.defaultCacheSize
  uniqueKeysThreshold : Nat := UniqueKeysTracker.defaultThreshold
  bloomFilterCapacity : Nat := 30000
  bloomFilterErrorRate : Float := 0.01
  deriving Repr

structure Delivery where
  impression : ImpressionWithAttributes
  answer : Except String Unit

structure ImpressionListener where
  answer : List ImpressionWithAttributes → ImpressionWithAttributes → Except String Unit
  heard : List ImpressionWithAttributes := []

namespace ImpressionListener

def hear (l : ImpressionListener) (i : ImpressionWithAttributes) : Delivery × ImpressionListener :=
  (⟨i, l.answer l.heard i⟩, { l with heard := i :: l.heard })

def hearAll (l : ImpressionListener) :
    List ImpressionWithAttributes → List Delivery × ImpressionListener
  | [] => ([], l)
  | i :: rest =>
    let (delivery, l) := l.hear i
    let (deliveries, l) := l.hearAll rest
    (delivery :: deliveries, l)

end ImpressionListener

structure ImpressionsManager where
  mode : ImpressionsMode
  strategy : Strategy
  counter : Counter
  uniqueKeys : UniqueKeysTracker
  listener : Option ImpressionListener

structure ProcessedImpressions where
  toStore : List Impression
  toListener : List ImpressionWithAttributes
  counted : List Impression
  uniqueKeys : List (String × String)

namespace ImpressionsManager

def new (settings : ImpressionsSettings) (listener : Option ImpressionListener) :
    Except SettingError ImpressionsManager := do
  let strategy ← Strategy.new settings.mode settings.observerCacheSize
  let uniqueKeys ← UniqueKeysTracker.new settings.uniqueKeysThreshold settings.bloomFilterCapacity
    settings.bloomFilterErrorRate
  return ⟨settings.mode, strategy, .empty, uniqueKeys, listener⟩

def deliver (listener : Option ImpressionListener) (impressions : List ImpressionWithAttributes) :
    List Delivery × Option ImpressionListener :=
  match listener with
  | none => ([], none)
  | some listener =>
    let (deliveries, listener) := listener.hearAll impressions
    (deliveries, some listener)

/-- A batch of impressions, processed at the time `now`: the result, the deliveries and the manager
afterwards. -/
def process (m : ImpressionsManager) (now : Int64) (batch : List ImpressionWithAttributes) :
    ProcessedImpressions × List Delivery × ImpressionsManager :=
  let (routing, strategy) := m.strategy.route now batch
  let counter := m.counter.track routing.forCounter 1
  let uniqueKeys := m.uniqueKeys.trackAll routing.forUniqueKeys
  let (deliveries, listener) := deliver m.listener routing.toListener
  (⟨routing.toStore, routing.toListener, routing.forCounter, routing.forUniqueKeys⟩, deliveries,
    { m with strategy, counter, uniqueKeys, listener })

end ImpressionsManager

end Rollout
