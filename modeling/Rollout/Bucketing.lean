import Rollout.Hash.Algorithm
import Rollout.Label

namespace Rollout

structure Partition where
  treatment : String
  size : UInt32
  deriving DecidableEq, Repr

namespace Bucketing

def bucket (key : String) (seed : Int32) (algo : HashAlgorithm) : Nat :=
  (algo.hash key seed).natAbs % 100 + 1

def saturatingAdd (a b : UInt32) : UInt32 :=
  if a.toNat + b.toNat < UInt32.size then a + b else 0xFFFFFFFF

def holder? (bucket : Nat) (covered : UInt32) : List Partition → Option Partition
  | [] => none
  | partition :: rest =>
    let covered := saturatingAdd covered partition.size
    if bucket ≤ covered.toNat then some partition else holder? bucket covered rest

def treatment (key : String) (seed : Int32) (algo : HashAlgorithm) (partitions : List Partition) :
    String :=
  let byBucket :=
    match holder? (bucket key seed algo) 0 partitions with
    | some partition => partition.treatment
    | none => controlTreatment
  match partitions with
  | [] => controlTreatment
  | [single] => if 100 ≤ single.size then single.treatment else byBucket
  | _ => byBucket

theorem one_le_bucket (key : String) (seed : Int32) (algo : HashAlgorithm) :
    1 ≤ bucket key seed algo :=
  Nat.le_add_left 1 _

theorem bucket_le (key : String) (seed : Int32) (algo : HashAlgorithm) :
    bucket key seed algo ≤ 100 :=
  Nat.mod_lt _ (by decide)

end Bucketing

end Rollout
