import Rollout.Definition.Condition

namespace Rollout

namespace HashAlgorithm

def ofJson? (json : Json) : Option HashAlgorithm :=
  (Json.nullable? Json.int64? json).map ofCode

def toJson (algo : HashAlgorithm) : Json := .ofInt algo.code.toInt

end HashAlgorithm

structure FlagDefinition where
  name : String
  seed : Int32
  trafficAllocation : Int32
  trafficAllocationSeed : Int32
  algo : HashAlgorithm
  killed : Bool
  defaultTreatment : String
  changeNumber : Int64
  configurations : Option (Dictionary String String)
  conditions : List ConditionDefinition
  deriving Repr

namespace FlagDefinition

def fieldNames : List String :=
  ["name", "seed", "trafficAllocation", "trafficAllocationSeed", "algo", "killed",
    "defaultTreatment", "changeNumber", "configurations", "conditions"]

def configurationsOfJson? (json : Json) : Option (Dictionary String String) :=
  (json.fields? Json.string?).map Dictionary.ofList

def ofJson? (json : Json) : Option FlagDefinition := do
  let slot ← json.record? fieldNames
  let name ← (slot "name").required? Json.string?
  let seed ← (slot "seed").required? Json.int32?
  let trafficAllocation ← (slot "trafficAllocation").withDefault? 100 Json.int32?
  let trafficAllocationSeed ← (slot "trafficAllocationSeed").withDefault? 0 Json.int32?
  let algo ← (slot "algo").withDefault? .legacy HashAlgorithm.ofJson?
  let killed ← (slot "killed").withDefault? false Json.bool?
  let defaultTreatment ← (slot "defaultTreatment").required? Json.string?
  let changeNumber ← (slot "changeNumber").withDefault? 0 Json.int64?
  let configurations ← (slot "configurations").withDefault? none
    (Json.nullable? configurationsOfJson?)
  let conditions ← (slot "conditions").withDefault? [] (Json.list? ConditionDefinition.ofJson?)
  return { name, seed, trafficAllocation, trafficAllocationSeed, algo, killed, defaultTreatment,
           changeNumber, configurations, conditions }

def toJson (f : FlagDefinition) : Json :=
  .object [("name", .string f.name),
    ("seed", .ofInt f.seed.toInt),
    ("trafficAllocation", .ofInt f.trafficAllocation.toInt),
    ("trafficAllocationSeed", .ofInt f.trafficAllocationSeed.toInt),
    ("algo", f.algo.toJson),
    ("killed", .bool f.killed),
    ("defaultTreatment", .string f.defaultTreatment),
    ("changeNumber", .ofInt f.changeNumber.toInt),
    ("configurations", .ofOption (.ofDictionary .string) f.configurations),
    ("conditions", .ofList ConditionDefinition.toJson f.conditions)]

end FlagDefinition

end Rollout
