import Rollout.Evaluation.Basic
import Rollout.Hash.Murmur128
import Rollout.Json.Encode

namespace Rollout

structure Impression where
  matchingKey : String
  feature : String
  treatment : String
  label : String
  changeNumber : Int64
  bucketingKey : Option String
  time : Int64
  previousTime : Option Int64
  deriving DecidableEq, Repr

namespace Impression

def ofEvaluation (feature matchingKey : String) (bucketingKey : Option String)
    (evaluation : Evaluation) (time : Int64) : Impression where
  matchingKey := matchingKey
  feature := feature
  treatment := evaluation.treatment
  label := evaluation.label
  changeNumber := evaluation.changeNumber
  bucketingKey := bucketingKey
  time := time
  previousTime := none

def identity (i : Impression) : String :=
  i.matchingKey ++ ":" ++ i.feature ++ ":" ++ i.treatment ++ ":" ++ i.label ++ ":" ++
    toString i.changeNumber.toInt

def hash (i : Impression) : UInt64 :=
  (Hash.murmur128 (Text.bytes i.identity) 0).low

def fieldNames : List String :=
  ["matchingKey", "feature", "treatment", "label", "changeNumber", "bucketingKey", "time",
    "previousTime"]

def ofJson? (json : Json) : Option Impression := do
  let slot ← json.record? fieldNames
  let matchingKey ← (slot "matchingKey").required? Json.string?
  let feature ← (slot "feature").required? Json.string?
  let treatment ← (slot "treatment").required? Json.string?
  let label ← (slot "label").required? Json.string?
  let changeNumber ← (slot "changeNumber").required? Json.int64?
  let bucketingKey ← (slot "bucketingKey").omissible? Json.string?
  let time ← (slot "time").required? Json.int64?
  let previousTime ← (slot "previousTime").omissible? Json.int64?
  return { matchingKey, feature, treatment, label, changeNumber, bucketingKey, time, previousTime }

def toJson (i : Impression) : Json :=
  .object [("matchingKey", .string i.matchingKey), ("feature", .string i.feature),
    ("treatment", .string i.treatment), ("label", .string i.label),
    ("changeNumber", .ofInt i.changeNumber.toInt),
    ("bucketingKey", .ofOption .string i.bucketingKey), ("time", .ofInt i.time.toInt),
    ("previousTime", .ofOption (fun t => .ofInt t.toInt) i.previousTime)]

end Impression

abbrev ImpressionWithAttributes := Impression × Option Attributes

inductive SettingError
  | filterCapacity
  | filterErrorRate
  | cacheCapacity
  deriving DecidableEq, Repr

def SettingError.message (e : SettingError) : String :=
  "invalid configuration: " ++
    match e with
    | .filterCapacity => "bloom filter capacity must be positive"
    | .filterErrorRate => "bloom filter error rate must be between 0 and 1"
    | .cacheCapacity => "LRU cache capacity must be positive"

end Rollout
