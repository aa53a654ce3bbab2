namespace Rollout

def controlTreatment : String := "control"

namespace Label

def killed : String := "killed"

def defaultRule : String := "default rule"

def notFound : String := "definition not found"

def outsideTraffic : String := "not in split"

def unsupportedMatcher : String := "targeting rule type unsupported by sdk"

end Label

end Rollout
