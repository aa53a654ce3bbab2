import Rollout.Text.Units

/-! A polynomial in 31 over the 16-bit units of the key, with the seed mixed in at the end. -/

namespace Rollout.Hash

def roll (h : Int32) (unit : UInt16) : Int32 :=
  h * 31 + unit.toUInt32.toInt32

def rolling (key : String) (seed : Int32) : Int32 :=
  (Text.units key).foldl roll 0 ^^^ seed

end Rollout.Hash
