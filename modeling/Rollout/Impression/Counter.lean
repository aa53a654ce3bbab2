import Rollout.Impression.Basic
import Rollout.Time

namespace Rollout

structure FeatureCount where
  feature : String
  timeFrame : Int64
  count : UInt64
  deriving DecidableEq, Repr

namespace FeatureCount

def ofJson? (json : Json) : Option FeatureCount := do
  let slot ← json.record? ["feature", "timeFrame", "count"]
  let feature ← (slot "feature").required? Json.string?
  let timeFrame ← (slot "timeFrame").required? Json.int64?
  let count ← (slot "count").required? Json.uint64?
  return ⟨feature, timeFrame, count⟩

def toJson (c : FeatureCount) : Json :=
  .object [("feature", .string c.feature), ("timeFrame", .ofInt c.timeFrame.toInt),
    ("count", .ofNat c.count.toNat)]

end FeatureCount

structure Counter where
  counts : Dictionary (String × Int64) UInt64
  deriving Repr

namespace Counter

def empty : Counter := ⟨.empty⟩

def key (i : Impression) : String × Int64 := (i.feature, Time.startOfHour i.time)

def addTo (inc : UInt64) (counts : Dictionary (String × Int64) UInt64) (i : Impression) :
    Dictionary (String × Int64) UInt64 :=
  counts.insert (key i) ((counts.find? (key i)).getD 0 + inc)

def track (c : Counter) (impressions : List Impression) (inc : UInt64) : Counter :=
  ⟨impressions.foldl (addTo inc) c.counts⟩

def popAll (c : Counter) : List FeatureCount × Counter :=
  (c.counts.entries.map fun entry => ⟨entry.1.1, entry.1.2, entry.2⟩, empty)

end Counter

end Rollout
