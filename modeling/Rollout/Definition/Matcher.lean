import Rollout.Json.Decode
import Rollout.Json.Encode

namespace Rollout

inductive MatcherType
  | allKeys
  | inSegment
  | whitelist
  | equalTo
  | atLeast
  | atMost
  | between
  | equalToSet
  | partOfSet
  | containsAllOfSet
  | containsAnyOfSet
  | startsWith
  | endsWith
  | containsString
  | inFlagTreatment
  | equalToBoolean
  | matchesString
  | equalToSemver
  | atLeastSemver
  | atMostSemver
  | betweenSemver
  | inListSemver
  deriving DecidableEq, Repr

namespace MatcherType

def name : MatcherType → String
  | allKeys => "ALL_KEYS"
  | inSegment => "IN_SEGMENT"
  | whitelist => "WHITELIST"
  | equalTo => "EQUAL_TO"
  | atLeast => "GREATER_THAN_OR_EQUAL_TO"
  | atMost => "LESS_THAN_OR_EQUAL_TO"
  | between => "BETWEEN"
  | equalToSet => "EQUAL_TO_SET"
  | partOfSet => "PART_OF_SET"
  | containsAllOfSet => "CONTAINS_ALL_OF_SET"
  | containsAnyOfSet => "CONTAINS_ANY_OF_SET"
  | startsWith => "STARTS_WITH"
  | endsWith => "ENDS_WITH"
  | containsString => "CONTAINS_STRING"
  | inFlagTreatment => "IN_SPLIT_TREATMENT"
  | equalToBoolean => "EQUAL_TO_BOOLEAN"
  | matchesString => "MATCHES_STRING"
  | equalToSemver => "EQUAL_TO_SEMVER"
  | atLeastSemver => "GREATER_THAN_OR_EQUAL_TO_SEMVER"
  | atMostSemver => "LESS_THAN_OR_EQUAL_TO_SEMVER"
  | betweenSemver => "BETWEEN_SEMVER"
  | inListSemver => "IN_LIST_SEMVER"

def all : List MatcherType :=
  [allKeys, inSegment, whitelist, equalTo, atLeast, atMost, between, equalToSet, partOfSet,
    containsAllOfSet, containsAnyOfSet, startsWith, endsWith, containsString, inFlagTreatment,
    equalToBoolean, matchesString, equalToSemver, atLeastSemver, atMostSemver, betweenSemver,
    inListSemver]

def ofJson? : Json → Option MatcherType :=
  Json.variant? (all.map fun t => (t.name, t))

def toJson (t : MatcherType) : Json := .string t.name

end MatcherType

structure KeySelector where
  trafficType : Option String
  attributeName : Option String
  deriving DecidableEq, Repr

namespace KeySelector

def ofJson? (json : Json) : Option KeySelector := do
  let slot ← json.record? ["trafficType", "attribute"]
  let trafficType ← (slot "trafficType").withDefault? none (Json.nullable? Json.string?)
  let attributeName ← (slot "attribute").withDefault? none (Json.nullable? Json.string?)
  return ⟨trafficType, attributeName⟩

def toJson (s : KeySelector) : Json :=
  .object [("trafficType", .ofOption .string s.trafficType),
    ("attribute", .ofOption .string s.attributeName)]

end KeySelector

inductive DataType
  | number
  | datetime
  deriving DecidableEq, Repr

namespace DataType

def name : DataType → String
  | number => "NUMBER"
  | datetime => "DATETIME"

def ofJson? : Json → Option DataType :=
  Json.variant? ([number, datetime].map fun t => (t.name, t))

def toJson (t : DataType) : Json := .string t.name

end DataType

structure Threshold where
  dataType : DataType
  value : Int64
  deriving DecidableEq, Repr

namespace Threshold

def ofJson? (json : Json) : Option Threshold := do
  let slot ← json.record? ["dataType", "value"]
  let dataType ← (slot "dataType").required? DataType.ofJson?
  let value ← (slot "value").required? Json.int64?
  return ⟨dataType, value⟩

def toJson (t : Threshold) : Json :=
  .object [("dataType", t.dataType.toJson), ("value", .ofInt t.value.toInt)]

end Threshold

structure NumericRange where
  dataType : DataType
  start : Int64
  finish : Int64
  deriving DecidableEq, Repr

namespace NumericRange

def ofJson? (json : Json) : Option NumericRange := do
  let slot ← json.record? ["dataType", "start", "end"]
  let dataType ← (slot "dataType").required? DataType.ofJson?
  let start ← (slot "start").required? Json.int64?
  let finish ← (slot "end").required? Json.int64?
  return ⟨dataType, start, finish⟩

def toJson (r : NumericRange) : Json :=
  .object [("dataType", r.dataType.toJson), ("start", .ofInt r.start.toInt),
    ("end", .ofInt r.finish.toInt)]

end NumericRange

structure TextRange where
  start : String
  finish : String
  deriving DecidableEq, Repr

namespace TextRange

def ofJson? (json : Json) : Option TextRange := do
  let slot ← json.record? ["start", "end"]
  let start ← (slot "start").required? Json.string?
  let finish ← (slot "end").required? Json.string?
  return ⟨start, finish⟩

def toJson (r : TextRange) : Json :=
  .object [("start", .string r.start), ("end", .string r.finish)]

end TextRange

structure FlagTreatments where
  flag : String
  treatments : List String
  deriving DecidableEq, Repr

namespace FlagTreatments

def ofJson? (json : Json) : Option FlagTreatments := do
  let slot ← json.record? ["split", "treatments"]
  let flag ← (slot "split").required? Json.string?
  let treatments ← (slot "treatments").withDefault? [] (Json.list? Json.string?)
  return ⟨flag, treatments⟩

def toJson (d : FlagTreatments) : Json :=
  .object [("split", .string d.flag), ("treatments", .ofList .string d.treatments)]

end FlagTreatments

def segmentOfJson? (json : Json) : Option String := do
  let slot ← json.record? ["segmentName"]
  (slot "segmentName").required? Json.string?

def segmentToJson (segment : String) : Json :=
  .object [("segmentName", .string segment)]

def whitelistOfJson? (json : Json) : Option (List String) := do
  let slot ← json.record? ["whitelist"]
  (slot "whitelist").withDefault? [] (Json.list? Json.string?)

def whitelistToJson (whitelist : List String) : Json :=
  .object [("whitelist", .ofList .string whitelist)]

structure MatcherDefinition where
  matcherType : MatcherType
  negate : Bool
  keySelector : Option KeySelector
  segment : Option String
  whitelist : Option (List String)
  threshold : Option Threshold
  numericRange : Option NumericRange
  textRange : Option TextRange
  dependency : Option FlagTreatments
  boolean : Option Bool
  text : Option String
  deriving DecidableEq, Repr

namespace MatcherDefinition

def fieldNames : List String :=
  ["matcherType", "negate", "keySelector", "userDefinedSegmentMatcherData",
    "whitelistMatcherData", "unaryNumericMatcherData", "betweenMatcherData",
    "betweenStringMatcherData", "dependencyMatcherData", "booleanMatcherData",
    "stringMatcherData"]

def ofJson? (json : Json) : Option MatcherDefinition := do
  let slot ← json.record? fieldNames
  let optional {α : Type} (name : String) (decode : Json → Option α) : Option (Option α) :=
    (slot name).withDefault? none (Json.nullable? decode)
  let matcherType ← (slot "matcherType").required? MatcherType.ofJson?
  let negate ← (slot "negate").withDefault? false Json.bool?
  let keySelector ← optional "keySelector" KeySelector.ofJson?
  let segment ← optional "userDefinedSegmentMatcherData" segmentOfJson?
  let whitelist ← optional "whitelistMatcherData" whitelistOfJson?
  let threshold ← optional "unaryNumericMatcherData" Threshold.ofJson?
  let numericRange ← optional "betweenMatcherData" NumericRange.ofJson?
  let textRange ← optional "betweenStringMatcherData" TextRange.ofJson?
  let dependency ← optional "dependencyMatcherData" FlagTreatments.ofJson?
  let boolean ← optional "booleanMatcherData" Json.bool?
  let text ← optional "stringMatcherData" Json.string?
  return { matcherType, negate, keySelector, segment, whitelist, threshold, numericRange,
           textRange, dependency, boolean, text }

def toJson (m : MatcherDefinition) : Json :=
  .object [("matcherType", m.matcherType.toJson),
    ("negate", .bool m.negate),
    ("keySelector", .ofOption KeySelector.toJson m.keySelector),
    ("userDefinedSegmentMatcherData", .ofOption segmentToJson m.segment),
    ("whitelistMatcherData", .ofOption whitelistToJson m.whitelist),
    ("unaryNumericMatcherData", .ofOption Threshold.toJson m.threshold),
    ("betweenMatcherData", .ofOption NumericRange.toJson m.numericRange),
    ("betweenStringMatcherData", .ofOption TextRange.toJson m.textRange),
    ("dependencyMatcherData", .ofOption FlagTreatments.toJson m.dependency),
    ("booleanMatcherData", .ofOption .bool m.boolean),
    ("stringMatcherData", .ofOption .string m.text)]

end MatcherDefinition

end Rollout
