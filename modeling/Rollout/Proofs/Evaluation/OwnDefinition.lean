import Rollout.Proofs.Evaluation.Path
import Rollout.Proofs.Evaluation.Termination

/-! While a flag is in progress its own definition is not read, so two contexts that define that
flag differently evaluate all other flags alike, state by state. -/

namespace Rollout

structure EvaluationContext.AgreeExcept (name : String) (ctx ctx' : EvaluationContext) : Prop where
  stored : ∀ other, other ≠ name → ctx.flag? other = ctx'.flag? other
  segments : ctx.segments = ctx'.segments
  key : ctx.key = ctx'.key
  bucketingKey : ctx.bucketingKey = ctx'.bucketingKey
  attributes : ctx.attributes = ctx'.attributes

lemma EvaluationM.inProgress_isInSegment (ctx : EvaluationContext) (segment value : String)
    (s : Progress) : ((isInSegment ctx segment value).runFrom s).2.inProgress = s.inProgress := by
  rw [isInSegment]
  cases ctx.segments <;> rfl

lemma EvaluationM.runFrom_remembering_congr {name : String} {make make' : EvaluationM Evaluation}
    {s : Progress} (h : make.runFrom { s with cut := false } = make'.runFrom { s with cut := false }) :
    (remembering name make).runFrom s = (remembering name make').runFrom s := by
  cases hl : s.memo.lookup name with
  | some e => rw [runFrom_remembering_of_some hl, runFrom_remembering_of_some hl]
  | none =>
    rcases hrun : make'.runFrom { s with cut := false } with ⟨e | e, t⟩
    · rw [runFrom_remembering_of_error hl (h.trans hrun), runFrom_remembering_of_error hl hrun]
    · rw [runFrom_remembering_of_ok hl (h.trans hrun), runFrom_remembering_of_ok hl hrun]

lemma EvaluationM.runFrom_unlessInProgress_congr {name : String}
    {evaluate evaluate' : EvaluationM Evaluation} {s : Progress}
    (h : name ∉ s.inProgress → evaluate.runFrom s = evaluate'.runFrom s) :
    (unlessInProgress name evaluate).runFrom s = (unlessInProgress name evaluate').runFrom s := by
  by_cases hm : name ∈ s.inProgress
  · rw [runFrom_unlessInProgress_of_mem hm, runFrom_unlessInProgress_of_mem hm]
  · rw [runFrom_unlessInProgress_of_notMem hm, runFrom_unlessInProgress_of_notMem hm, h hm]

namespace EvaluationContext

lemma nodup_names (ctx : EvaluationContext) : ctx.names.Nodup := by
  rw [names]
  cases ctx.configuration with
  | none => exact List.nodup_nil
  | some configuration => exact configuration.flags.nodup

end EvaluationContext

namespace EvaluationContext.AgreeExcept

variable {α : Type} {ctx ctx' : EvaluationContext} {name : String}

lemma inquiry_eq (h : AgreeExcept name ctx ctx') (flag : FeatureFlag) :
    flag.inquiry ctx = flag.inquiry ctx' :=
  FeatureFlag.inquiry_congr h.bucketingKey fun _ _ m _ => by rw [h.key, h.attributes]

lemma isInSegment_eq (h : AgreeExcept name ctx ctx') (segment value : String) :
    EvaluationM.isInSegment ctx segment value = EvaluationM.isInSegment ctx' segment value := by
  rw [EvaluationM.isInSegment, EvaluationM.isInSegment, h.segments]

lemma runFrom_run (h : AgreeExcept name ctx ctx') {d d' : Dependency}
    (hd : ∀ other s, name ∈ s.inProgress → (d other).runFrom s = (d' other).runFrom s)
    (hp : ∀ other s, ((d' other).runFrom s).2.inProgress = s.inProgress) (q : Inquiry α)
    {s : Progress} (hs : name ∈ s.inProgress) :
    (q.run ctx d).runFrom s = (q.run ctx' d').runFrom s := by
  induction q generalizing s with
  | done value => rfl
  | membership place segment value next ih =>
    have ht := EvaluationM.inProgress_isInSegment ctx' segment value s
    rw [Inquiry.run, Inquiry.run, EvaluationM.runFrom_bind, EvaluationM.runFrom_bind,
      h.isInSegment_eq]
    rcases hrun : (EvaluationM.isInSegment ctx' segment value).runFrom s with ⟨e | b, t⟩
    · rfl
    · rw [hrun] at ht
      exact ih b (ht ▸ hs)
  | evaluation flag next ih =>
    have ht := hp flag s
    rw [Inquiry.run, Inquiry.run, EvaluationM.runFrom_bind, EvaluationM.runFrom_bind, hd flag s hs]
    rcases hrun : (d' flag).runFrom s with ⟨e | e, t⟩
    · rfl
    · rw [hrun] at ht
      exact ih e (ht ▸ hs)

lemma runFrom_evaluate (h : AgreeExcept name ctx ctx') {d d' : Dependency}
    (hd : ∀ other s, name ∈ s.inProgress → (d other).runFrom s = (d' other).runFrom s)
    (hp : ∀ other s, ((d' other).runFrom s).2.inProgress = s.inProgress) (flag : FeatureFlag)
    {s : Progress} (hs : name ∈ s.inProgress) :
    (flag.evaluate ctx d).runFrom s = (flag.evaluate ctx' d').runFrom s := by
  have hrun := h.runFrom_run hd hp (flag.inquiry ctx)
    (s := { s with inProgress := flag.name :: s.inProgress }) (List.mem_cons_of_mem _ hs)
  rw [Rollout.runFrom_evaluate hrun, h.inquiry_eq, Rollout.runFrom_evaluate rfl]

lemma runFrom_evaluateByName (h : AgreeExcept name ctx ctx') (depth : Nat) {other : String}
    (hne : other ≠ name) {s : Progress} (hs : name ∈ s.inProgress) :
    (ctx.evaluateByName depth other).runFrom s = (ctx'.evaluateByName depth other).runFrom s := by
  induction depth generalizing other s with
  | zero =>
    unfold evaluateByName
    rw [h.stored other hne]
    cases ctx'.flag? other <;> rfl
  | succ depth ih =>
    cases hf : ctx'.flag? other with
    | none =>
      rw [evaluateByName_of_none hf, evaluateByName_of_none ((h.stored other hne).trans hf)]
    | some flag =>
      rw [evaluateByName_of_some hf, evaluateByName_of_some ((h.stored other hne).trans hf)]
      apply EvaluationM.runFrom_remembering_congr
      refine h.runFrom_evaluate (fun next t ht => ?_) (inProgress_evaluateDependency ctx' depth) flag hs
      apply EvaluationM.runFrom_unlessInProgress_congr
      intro hn
      -- A dependency on the flag itself is cut before its definition is read.
      have hne' : next ≠ name := by
        rintro rfl
        exact hn ht
      exact ih hne' ht

lemma runFrom_evaluateDependency (h : AgreeExcept name ctx ctx') (depth : Nat) (other : String)
    (s : Progress) (hs : name ∈ s.inProgress) :
    (ctx.evaluateDependency depth other).runFrom s =
      (ctx'.evaluateDependency depth other).runFrom s := by
  apply EvaluationM.runFrom_unlessInProgress_congr
  intro hn
  have hne : other ≠ name := by
    rintro rfl
    exact hn hs
  exact h.runFrom_evaluateByName depth hne hs

lemma depthLimit_eq (h : AgreeExcept name ctx ctx')
    (hstored : (ctx.flag? name).isSome = (ctx'.flag? name).isSome) :
    ctx.depthLimit = ctx'.depthLimit := by
  have hnames : ctx.names.Perm ctx'.names := by
    rw [List.perm_ext_iff_of_nodup ctx.nodup_names ctx'.nodup_names]
    intro other
    rw [mem_names_iff, mem_names_iff]
    by_cases hne : other = name
    · rw [hne, hstored]
    · rw [h.stored other hne]
  rw [← length_names, ← length_names, hnames.length_eq]

end EvaluationContext.AgreeExcept

end Rollout
