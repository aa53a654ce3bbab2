import Rollout.Configuration
import Rollout.Evaluation.Basic

namespace Rollout

abbrev SegmentLookup := String → String → Bool

structure EvaluationContext where
  configuration : Option Configuration
  segments : Option SegmentLookup
  key : String
  bucketingKey : String
  attributes : Attributes

def EvaluationContext.flag? (ctx : EvaluationContext) (name : String) : Option FeatureFlag :=
  ctx.configuration.bind fun configuration => configuration.flag? name

/-- `cut` says that a dependency on a flag in progress was met since the flag last cleared it. The
lookups are those of the whole call, the latest first. -/
structure Progress where
  memo : List (String × Evaluation)
  inProgress : List String
  cut : Bool
  lookups : List (String × String)
  deriving DecidableEq, Repr

def Progress.start : Progress := ⟨[], [], false, []⟩

abbrev EvaluationM := ExceptT EvaluationError (StateM Progress)

namespace EvaluationM

def runFrom {α : Type} (step : EvaluationM α) (s : Progress) :
    Except EvaluationError α × Progress :=
  StateT.run (ExceptT.run step) s

def ofFunction {α : Type} (f : Progress → Except EvaluationError α × Progress) : EvaluationM α :=
  ExceptT.mk f

@[simp] theorem runFrom_pure {α : Type} (value : α) (s : Progress) :
    (pure value : EvaluationM α).runFrom s = (.ok value, s) := rfl

@[simp] theorem runFrom_throw {α : Type} (e : EvaluationError) (s : Progress) :
    (throw e : EvaluationM α).runFrom s = (.error e, s) := rfl

@[simp] theorem runFrom_get (s : Progress) : (get : EvaluationM Progress).runFrom s = (.ok s, s) :=
  rfl

@[simp] theorem runFrom_modify (f : Progress → Progress) (s : Progress) :
    (modify f : EvaluationM Unit).runFrom s = (.ok (), f s) := rfl

@[simp] theorem runFrom_ofFunction {α : Type}
    (f : Progress → Except EvaluationError α × Progress) (s : Progress) :
    (ofFunction f).runFrom s = f s := rfl

theorem runFrom_bind {α β : Type} (step : EvaluationM α) (next : α → EvaluationM β)
    (s : Progress) :
    (step >>= next).runFrom s =
      match step.runFrom s with
      | (.ok value, t) => (next value).runFrom t
      | (.error e, t) => (.error e, t) := by
  rcases h : step.runFrom s with ⟨e | value, t⟩ <;>
    · simp only [runFrom] at h
      simp only [runFrom, ExceptT.run_bind, StateT.run_bind, h]
      rfl

@[simp] theorem runFrom_map {α β : Type} (f : α → β) (step : EvaluationM α) (s : Progress) :
    (f <$> step).runFrom s = ((step.runFrom s).1.map f, (step.runFrom s).2) := by
  rw [map_eq_pure_bind, runFrom_bind]
  rcases step.runFrom s with ⟨e | value, t⟩ <;> rfl

def inside {α : Type} (name : String) (body : EvaluationM α) : EvaluationM α :=
  ofFunction fun s =>
    let (result, t) := body.runFrom { s with inProgress := name :: s.inProgress }
    (result, { t with inProgress := t.inProgress.erase name })

def notingCut {α : Type} (body : EvaluationM α) : EvaluationM (α × Bool) :=
  ofFunction fun s =>
    let (result, t) := body.runFrom { s with cut := false }
    (result.map fun value => (value, t.cut), { t with cut := s.cut || t.cut })

/-- Gives the remembered evaluation of a flag, or makes one. An evaluation in which a dependency was
cut depends on where the cycle was entered, so it is not remembered. -/
def remembering (name : String) (make : EvaluationM Evaluation) : EvaluationM Evaluation := do
  match (← get).memo.lookup name with
  | some evaluation => return evaluation
  | none =>
    let (evaluation, wasCut) ← notingCut make
    if !wasCut then
      modify fun s => { s with memo := (name, evaluation) :: s.memo }
    return evaluation

theorem runFrom_remembering_of_some {name : String} {make : EvaluationM Evaluation} {s : Progress}
    {evaluation : Evaluation} (h : s.memo.lookup name = some evaluation) :
    (remembering name make).runFrom s = (.ok evaluation, s) := by
  simp [remembering, runFrom_bind, h]

theorem runFrom_remembering_of_error {name : String} {make : EvaluationM Evaluation}
    {s t : Progress} {e : EvaluationError} (h : s.memo.lookup name = none)
    (hm : make.runFrom { s with cut := false } = (.error e, t)) :
    (remembering name make).runFrom s = (.error e, { t with cut := s.cut || t.cut }) := by
  simp [remembering, notingCut, runFrom_bind, h, hm, Except.map]

theorem runFrom_remembering_of_ok {name : String} {make : EvaluationM Evaluation}
    {s t : Progress} {evaluation : Evaluation} (h : s.memo.lookup name = none)
    (hm : make.runFrom { s with cut := false } = (.ok evaluation, t)) :
    (remembering name make).runFrom s =
      (.ok evaluation,
        { t with
          memo := if t.cut then t.memo else (name, evaluation) :: t.memo
          cut := s.cut || t.cut }) := by
  cases hc : t.cut <;> simp [remembering, notingCut, runFrom_bind, h, hm, hc, Except.map]

def unlessInProgress (name : String) (evaluate : EvaluationM Evaluation) :
    EvaluationM (Option Evaluation) := do
  if (← get).inProgress.contains name then
    modify fun s => { s with cut := true }
    return none
  else
    let evaluation ← evaluate
    return some evaluation

theorem runFrom_unlessInProgress_of_mem {name : String} {evaluate : EvaluationM Evaluation}
    {s : Progress} (h : name ∈ s.inProgress) :
    (unlessInProgress name evaluate).runFrom s = (.ok none, { s with cut := true }) := by
  simp [unlessInProgress, runFrom_bind, h, Except.map]

theorem runFrom_unlessInProgress_of_notMem {name : String} {evaluate : EvaluationM Evaluation}
    {s : Progress} (h : name ∉ s.inProgress) :
    (unlessInProgress name evaluate).runFrom s =
      ((evaluate.runFrom s).1.map some, (evaluate.runFrom s).2) := by
  simp [unlessInProgress, runFrom_bind, h]

def isInSegment (ctx : EvaluationContext) (segment value : String) : EvaluationM Bool :=
  match ctx.segments with
  | none => throw (.segmentLookupMissing segment)
  | some lookup => do
    modify fun s => { s with lookups := (segment, value) :: s.lookups }
    return lookup segment value

end EvaluationM

end Rollout
