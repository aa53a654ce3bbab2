import Rollout.Definition.Matcher
import Rollout.Time

namespace Rollout

inductive NumericScale
  | plain
  | minute
  | day
  deriving DecidableEq, Repr

namespace NumericScale

def forEquality : DataType → NumericScale
  | .number => plain
  | .datetime => day

def forOrder : DataType → NumericScale
  | .number => plain
  | .datetime => minute

def normalize : NumericScale → Int64 → Int64
  | plain, value => value
  | minute, value => Time.floorTo Time.minute value
  | day, value => Time.floorTo Time.day value

end NumericScale

end Rollout
