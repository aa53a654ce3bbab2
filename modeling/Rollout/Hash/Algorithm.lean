import Rollout.Hash.Rolling
import Rollout.Hash.Murmur32

namespace Rollout

inductive HashAlgorithm
  | legacy
  | murmur
  deriving DecidableEq, Repr

namespace HashAlgorithm

def ofCode : Option Int64 → HashAlgorithm
  | none => legacy
  | some code => if code = 1 then legacy else murmur

def code : HashAlgorithm → Int64
  | legacy => 1
  | murmur => 2

def hash (algo : HashAlgorithm) (key : String) (seed : Int32) : Int :=
  match algo with
  | legacy => (Hash.rolling key seed).toInt
  | murmur => (Hash.murmur32 (Text.bytes key) seed.toUInt32).toNat

theorem ofCode_code (algo : HashAlgorithm) : ofCode (some algo.code) = algo := by
  cases algo <;> decide

end HashAlgorithm

end Rollout
