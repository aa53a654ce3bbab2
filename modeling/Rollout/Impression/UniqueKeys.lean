import Rollout.Impression.BloomFilter
import Rollout.StringSet

/-! A Bloom filter remembers what was tracked beyond the times at which the keys are handed over. -/

namespace Rollout

/-- What happens when more keys are held than the threshold: somebody is notified, or all keys are
handed over. -/
inductive QueueFullHook
  | notify
  | drain
  deriving DecidableEq, Repr

structure TrackedKeys where
  keys : Dictionary String StringSet
  size : Nat
  deriving Repr

structure UniqueKeysTracker where
  filter : BloomFilter
  tracked : TrackedKeys
  threshold : Nat
  hook : Option QueueFullHook
  deriving Repr

structure TrackAnswer where
  isNew : Bool
  hookRan : Bool
  drained : Option TrackedKeys
  deriving Repr

namespace TrackedKeys

def empty : TrackedKeys := ⟨.empty, 0⟩

def insert (t : TrackedKeys) (flag key : String) : TrackedKeys :=
  ⟨t.keys.insert flag (((t.keys.find? flag).getD .empty).insert key), t.size + 1⟩

end TrackedKeys

namespace UniqueKeysTracker

def defaultThreshold : Nat := 30000

def new (threshold filterCapacity : Nat) (filterErrorRate : Float) :
    Except SettingError UniqueKeysTracker :=
  (BloomFilter.new filterCapacity filterErrorRate).map fun filter =>
    ⟨filter, .empty, threshold, none⟩

def popAll (t : UniqueKeysTracker) : TrackedKeys × UniqueKeysTracker :=
  (t.tracked, { t with tracked := .empty })

def clearFilter (t : UniqueKeysTracker) : UniqueKeysTracker :=
  { t with filter := t.filter.clear }

def setHook (t : UniqueKeysTracker) (hook : QueueFullHook) : UniqueKeysTracker :=
  { t with hook := some hook }

def filterKey (key flag : String) : String := flag ++ key

def runHook (t : UniqueKeysTracker) : TrackAnswer × UniqueKeysTracker :=
  match t.hook with
  | none => (⟨true, false, none⟩, t)
  | some .notify => (⟨true, true, none⟩, t)
  | some .drain =>
    let (drained, t) := t.popAll
    (⟨true, true, some drained⟩, t)

def track (t : UniqueKeysTracker) (key flag : String) : TrackAnswer × UniqueKeysTracker :=
  let filterKey := filterKey key flag
  if t.filter.contains filterKey then (⟨false, false, none⟩, t)
  else
    let t := { t with filter := t.filter.add filterKey, tracked := t.tracked.insert flag key }
    if t.threshold < t.tracked.size then t.runHook else (⟨true, false, none⟩, t)

def trackAll (t : UniqueKeysTracker) (pairs : List (String × String)) : UniqueKeysTracker :=
  pairs.foldl (fun t pair => (t.track pair.1 pair.2).2) t

end UniqueKeysTracker

end Rollout
