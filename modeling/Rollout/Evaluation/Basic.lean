import Rollout.Flag
import Rollout.Label

namespace Rollout

structure Evaluation where
  treatment : String
  label : String
  changeNumber : Int64
  configuration : Option String
  deriving DecidableEq, Repr

namespace Evaluation

def ofFlag (flag : FeatureFlag) (treatment label : String) : Evaluation :=
  ⟨treatment, label, flag.changeNumber, flag.configuration? treatment⟩

def byDefault (flag : FeatureFlag) (label : String) : Evaluation :=
  ofFlag flag flag.defaultTreatment label

def notFound : Evaluation := ⟨controlTreatment, Label.notFound, -1, none⟩

end Evaluation

inductive EvaluationError
  | segmentLookupMissing (segment : String)
  | nestedTooDeeply
  deriving DecidableEq, Repr

def EvaluationError.message : EvaluationError → String
  | .segmentLookupMissing segment =>
    "segment membership lookup is required to evaluate segment Str(" ++ Text.quoted segment ++ ")"
  | .nestedTooDeeply => "flags depend on each other too deeply"

end Rollout
