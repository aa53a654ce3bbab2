import Rollout.Impression.Mode
import Rollout.Impression.Observer
import Rollout.Time

namespace Rollout

structure Routing where
  toStore : List Impression
  toListener : List ImpressionWithAttributes
  forCounter : List Impression
  forUniqueKeys : List (String × String)

inductive Strategy
  | optimized (observer : ImpressionObserver)
  | debug (observer : ImpressionObserver)
  | none

namespace Strategy

def new (mode : ImpressionsMode) (observerCacheSize : Nat) : Except SettingError Strategy :=
  match mode with
  | .optimized => (ImpressionObserver.new observerCacheSize).map .optimized
  | .debug => (ImpressionObserver.new observerCacheSize).map .debug
  | .none => .ok .none

def shouldStore (thisHour : Int64) (i : Impression) : Bool :=
  match i.previousTime with
  | .none => true
  | some previous => previous < thisHour

def route (s : Strategy) (now : Int64) (batch : List ImpressionWithAttributes) :
    Routing × Strategy :=
  match s with
  | .optimized observer =>
    let (observed, observer) := observer.observe batch
    let impressions := observed.map Prod.fst
    (⟨impressions.filter (shouldStore (Time.startOfHour now)), observed, impressions, []⟩,
      .optimized observer)
  | .debug observer =>
    let (observed, observer) := observer.observe batch
    (⟨observed.map Prod.fst, observed, [], []⟩, .debug observer)
  | .none =>
    let impressions := batch.map Prod.fst
    (⟨[], batch, impressions, impressions.map fun i => (i.matchingKey, i.feature)⟩, .none)

end Strategy

end Rollout
