namespace Rollout.Time

def minute : Int := 60000

def hour : Int := 60 * minute

def day : Int := 24 * hour

/-- The last multiple of `unit` that is not after `time`, before the epoch as well. -/
def floorTo (unit : Int) (time : Int64) : Int64 :=
  Int64.ofInt (time.toInt - time.toInt % unit)

def startOfHour (time : Int64) : Int64 := floorTo hour time

end Rollout.Time
