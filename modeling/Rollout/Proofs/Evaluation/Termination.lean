import Rollout.Proofs.Evaluation.Steps

/-! The single steps of a call lead to the outcome of the evaluation with a bounded depth, so the
bound is never met. -/

namespace Rollout

variable {α β : Type} {ctx : EvaluationContext}

lemma runFrom_evaluate {flag : FeatureFlag} {dependency : Dependency} {s t : Progress}
    {result : Except EvaluationError Evaluation}
    (h : ((flag.inquiry ctx).run ctx dependency).runFrom
      { s with inProgress := flag.name :: s.inProgress } = (result, t)) :
    (flag.evaluate ctx dependency).runFrom s =
      (result, { t with inProgress := t.inProgress.erase flag.name }) := by
  rw [FeatureFlag.evaluate, FeatureFlag.evaluateBody_eq_run, EvaluationM.inside,
    EvaluationM.runFrom_ofFunction, h]

section InProgress

lemma inProgress_run (ctx : EvaluationContext) {dependency : Dependency}
    (hd : ∀ other t, ((dependency other).runFrom t).2.inProgress = t.inProgress) (q : Inquiry α)
    (s : Progress) : ((q.run ctx dependency).runFrom s).2.inProgress = s.inProgress := by
  induction q generalizing s with
  | done value => rfl
  | membership place segment value next ih =>
    rw [Inquiry.run, EvaluationM.runFrom_bind, EvaluationM.isInSegment]
    cases ctx.segments with
    | none => rfl
    | some lookup => exact ih _ _
  | evaluation flag next ih =>
    have ht := hd flag s
    rw [Inquiry.run, EvaluationM.runFrom_bind]
    rcases hrun : (dependency flag).runFrom s with ⟨e | e?, t⟩
    · rw [hrun] at ht
      exact ht
    · rw [hrun] at ht
      exact (ih e? t).trans ht

lemma inProgress_evaluate {flag : FeatureFlag} {dependency : Dependency}
    (hd : ∀ other t, ((dependency other).runFrom t).2.inProgress = t.inProgress) (s : Progress) :
    ((flag.evaluate ctx dependency).runFrom s).2.inProgress = s.inProgress := by
  have ht := inProgress_run ctx hd (flag.inquiry ctx)
    { s with inProgress := flag.name :: s.inProgress }
  rcases hrun : ((flag.inquiry ctx).run ctx dependency).runFrom
    { s with inProgress := flag.name :: s.inProgress } with ⟨result, t⟩
  rw [hrun] at ht
  rw [runFrom_evaluate hrun]
  exact t.inProgress_leave ht t.cut

lemma inProgress_remembering {name : String} {make : EvaluationM Evaluation}
    (hm : ∀ t, (make.runFrom t).2.inProgress = t.inProgress) (s : Progress) :
    ((EvaluationM.remembering name make).runFrom s).2.inProgress = s.inProgress := by
  have ht := hm { s with cut := false }
  cases hl : s.memo.lookup name with
  | some known => rw [EvaluationM.runFrom_remembering_of_some hl]
  | none =>
    rcases hrun : make.runFrom { s with cut := false } with ⟨e | e, t⟩
    · rw [hrun] at ht
      rw [EvaluationM.runFrom_remembering_of_error hl hrun]
      exact ht
    · rw [hrun] at ht
      rw [EvaluationM.runFrom_remembering_of_ok hl hrun]
      exact ht

lemma inProgress_unlessInProgress {name : String} {evaluate : EvaluationM Evaluation}
    (he : ∀ t, (evaluate.runFrom t).2.inProgress = t.inProgress) (s : Progress) :
    ((EvaluationM.unlessInProgress name evaluate).runFrom s).2.inProgress = s.inProgress := by
  by_cases hp : name ∈ s.inProgress
  · rw [EvaluationM.runFrom_unlessInProgress_of_mem hp]
  · rw [EvaluationM.runFrom_unlessInProgress_of_notMem hp]
    exact he s

lemma inProgress_evaluateByName (ctx : EvaluationContext) (depth : Nat) (name : String) (s : Progress) :
    ((ctx.evaluateByName depth name).runFrom s).2.inProgress = s.inProgress := by
  induction depth generalizing name s with
  | zero =>
    unfold EvaluationContext.evaluateByName
    refine inProgress_remembering (fun t => ?_) s
    cases ctx.flag? name <;> rfl
  | succ depth ih =>
    cases hf : ctx.flag? name with
    | none =>
      rw [EvaluationContext.evaluateByName_of_none hf]
      exact inProgress_remembering (fun _ => rfl) s
    | some flag =>
      rw [EvaluationContext.evaluateByName_of_some hf]
      refine inProgress_remembering (fun t => inProgress_evaluate (fun other u => ?_) t) s
      exact inProgress_unlessInProgress (ih other) u

lemma inProgress_evaluateDependency (ctx : EvaluationContext) (depth : Nat) (name : String)
    (s : Progress) :
    ((ctx.evaluateDependency depth name).runFrom s).2.inProgress = s.inProgress :=
  inProgress_unlessInProgress (inProgress_evaluateByName ctx depth name) s

end InProgress

namespace Moment

def Reaches (ctx : EvaluationContext) (m m' : Moment α) : Prop := ∃ n, m.after ctx n = m'

lemma Reaches.refl (m : Moment α) : Reaches ctx m m := ⟨0, rfl⟩

lemma Reaches.trans {m₁ m₂ m₃ : Moment α} (h : Reaches ctx m₁ m₂) (h' : Reaches ctx m₂ m₃) :
    Reaches ctx m₁ m₃ := by
  obtain ⟨n, rfl⟩ := h
  obtain ⟨k, rfl⟩ := h'
  exact ⟨k + n, Function.iterate_add_apply _ k n m₁⟩

lemma Reaches.head {m m' : Moment α} (h : Reaches ctx (m.next ctx) m') : Reaches ctx m m' := by
  obtain ⟨n, hn⟩ := h
  exact ⟨n + 1, hn⟩

end Moment

open Moment (Reaches)

def Waiting.settle (w : Waiting α) :
    Except EvaluationError (Option Evaluation) × Progress → Moment α
  | (.ok e, t) => ⟨w.answer e, t⟩
  | (.error e, t) => ⟨w.fail e, t⟩

def Place.settle (p : Place α β) : Except EvaluationError β × Progress → Moment α
  | (.ok value, t) => ⟨p.go (.done value), t⟩
  | (.error e, t) => ⟨p.fail e, t⟩

structure Place.Lawful (ctx : EvaluationContext) (p : Place α β) : Prop where
  next : ∀ q s, ∃ finish, Moment.next ctx ⟨p.go q, s⟩ = p.step ctx finish s q
  answer : ∀ next e, (p.wait next).answer e = p.go (next e)
  fail : ∀ next e, (p.wait next).fail e = p.fail e

lemma Place.lawful_call : (Place.call : Place α α).Lawful ctx :=
  ⟨fun _ _ => ⟨_, rfl⟩, fun _ _ => rfl, fun _ _ => rfl⟩

lemma Place.lawful_within (name : String) (cutBefore : Bool) (outer : Waiting α) :
    (Place.within name cutBefore outer).Lawful ctx :=
  ⟨fun _ _ => ⟨_, rfl⟩, fun _ _ => rfl, fun _ _ => rfl⟩

lemma reaches_settle {p : Place α β} (hp : p.Lawful ctx) {depth : Nat} {path : List String}
    (hask : ∀ (w : Waiting α) name t, t.inProgress = path →
      Reaches ctx (w.ask ctx t name) (w.settle ((ctx.evaluateDependency depth name).runFrom t)))
    (q : Inquiry β) {s : Progress} (hs : s.inProgress = path) :
    Reaches ctx ⟨p.go q, s⟩
      (p.settle ((q.run ctx (ctx.evaluateDependency depth)).runFrom s)) := by
  induction q generalizing s with
  | done value => exact .refl _
  | membership place segment value next ih =>
    obtain ⟨finish, hn⟩ := hp.next (.membership place segment value next) s
    apply Reaches.head
    rw [hn, Place.step, Inquiry.run, EvaluationM.runFrom_bind, EvaluationM.isInSegment]
    cases ctx.segments with
    | none => exact .refl _
    | some lookup => exact ih _ hs
  | evaluation name next ih =>
    obtain ⟨finish, hn⟩ := hp.next (.evaluation name next) s
    have ht := inProgress_evaluateDependency ctx depth name s
    have ha := hask (p.wait next) name s hs
    apply Reaches.head
    rw [hn, Place.step, Inquiry.run, EvaluationM.runFrom_bind]
    rcases hrun : (ctx.evaluateDependency depth name).runFrom s with ⟨err | e, t⟩
    · rw [hrun, Waiting.settle, hp.fail] at ha
      exact ha
    · rw [hrun, Waiting.settle, hp.answer] at ha
      rw [hrun] at ht
      exact ha.trans (ih e (ht.trans hs))

lemma runFrom_evaluateByName_of_lookup {depth : Nat} {name : String} {s : Progress} {e : Evaluation}
    (h : s.memo.lookup name = some e) : (ctx.evaluateByName depth name).runFrom s = (.ok e, s) := by
  unfold EvaluationContext.evaluateByName
  exact EvaluationM.runFrom_remembering_of_some h

lemma runFrom_evaluateByName_of_none {depth : Nat} {name : String} {s : Progress}
    (h : s.memo.lookup name = none) (hf : ctx.flag? name = none) :
    (ctx.evaluateByName depth name).runFrom s =
      (.ok .notFound, { s with memo := (name, .notFound) :: s.memo }) := by
  rw [EvaluationContext.evaluateByName_of_none hf,
    EvaluationM.runFrom_remembering_of_ok h (EvaluationM.runFrom_pure _ _)]
  simp

lemma runFrom_evaluateByName_of_some {depth : Nat} {name : String} {s : Progress}
    {flag : FeatureFlag} (h : s.memo.lookup name = none) (hf : ctx.flag? name = some flag) :
    (ctx.evaluateByName (depth + 1) name).runFrom s =
      match ((flag.inquiry ctx).run ctx (ctx.evaluateDependency depth)).runFrom (s.enter name) with
      | (.ok e, t) => (.ok e, (t.remember name e).leave name s.cut)
      | (.error e, t) => (.error e, t.leave name s.cut) := by
  obtain rfl := EvaluationContext.name_of_flag? hf
  rw [EvaluationContext.evaluateByName_of_some hf]
  rcases hrun : ((flag.inquiry ctx).run ctx (ctx.evaluateDependency depth)).runFrom
    (s.enter flag.name) with ⟨e | e, t⟩
  · have hmake := runFrom_evaluate (s := { s with cut := false }) hrun
    exact EvaluationM.runFrom_remembering_of_error h hmake
  · have hmake := runFrom_evaluate (s := { s with cut := false }) hrun
    exact EvaluationM.runFrom_remembering_of_ok h hmake

lemma ask_eq_settle {s : Progress} {name : String} (depth : Nat) (w : Waiting α)
    (h : name ∈ s.inProgress ∨ (s.memo.lookup name).isSome ∨ ctx.flag? name = none) :
    w.ask ctx s name = w.settle ((ctx.evaluateDependency depth name).runFrom s) := by
  rw [Waiting.ask, EvaluationContext.evaluateDependency]
  by_cases hp : name ∈ s.inProgress
  · rw [if_pos hp, EvaluationM.runFrom_unlessInProgress_of_mem hp]
    rfl
  · rw [if_neg hp, EvaluationM.runFrom_unlessInProgress_of_notMem hp]
    cases hl : s.memo.lookup name with
    | some known =>
      rw [runFrom_evaluateByName_of_lookup hl]
      rfl
    | none =>
      have hf : ctx.flag? name = none := by simpa [hp, hl] using h
      rw [runFrom_evaluateByName_of_none hl hf, hf]
      rfl

lemma reaches_ask {depth : Nat} {s : Progress} (hd : ctx.unvisited s.inProgress ≤ depth)
    (w : Waiting α) (name : String) :
    Reaches ctx (w.ask ctx s name) (w.settle ((ctx.evaluateDependency depth name).runFrom s)) := by
  -- The induction hypothesis serves a flag that was just entered: one flag less is not in progress.
  induction depth generalizing s w name with
  | zero =>
    have hf : ctx.flag? name = none ∨ name ∈ s.inProgress := by
      by_contra h
      rw [not_or] at h
      obtain ⟨flag, hf⟩ := Option.ne_none_iff_exists'.mp h.1
      have := EvaluationContext.unvisited_lt hf h.2
      omega
    rw [ask_eq_settle 0 w (hf.elim (Or.inr ∘ Or.inr) Or.inl)]
    exact .refl _
  | succ depth ih =>
    by_cases h : name ∈ s.inProgress ∨ (s.memo.lookup name).isSome ∨ ctx.flag? name = none
    · rw [ask_eq_settle _ w h]
      exact .refl _
    · simp only [not_or, Option.not_isSome_iff_eq_none] at h
      obtain ⟨hp, hl, hf⟩ := h
      obtain ⟨flag, hf⟩ := Option.ne_none_iff_exists'.mp hf
      have hle : ctx.unvisited (name :: s.inProgress) ≤ depth := by
        have := EvaluationContext.unvisited_lt hf hp
        omega
      have hwalk : Reaches ctx ⟨.walking name s.cut (flag.inquiry ctx) w, s.enter name⟩
          ((Place.within name s.cut w).settle
            (((flag.inquiry ctx).run ctx (ctx.evaluateDependency depth)).runFrom (s.enter name))) := by
        apply reaches_settle (Place.lawful_within name s.cut w)
        · intro w' other t ht
          exact ih (by rw [ht]; exact hle) w' other
        · rfl
      have hask : w.ask ctx s name = ⟨.walking name s.cut (flag.inquiry ctx) w, s.enter name⟩ := by
        rw [Waiting.ask, if_neg hp, hl, hf]
      rw [hask, EvaluationContext.evaluateDependency,
        EvaluationM.runFrom_unlessInProgress_of_notMem hp, runFrom_evaluateByName_of_some hl hf]
      refine hwalk.trans ?_
      rcases ((flag.inquiry ctx).run ctx (ctx.evaluateDependency depth)).runFrom (s.enter name) with
        ⟨e | e, t⟩
      · exact .head (.refl _)
      · exact .head (.refl _)

/-- The steps of a call come to its outcome, and at every moment the flags in progress are the ones
that have been entered and not left, all different and within the limit. The bound on the depth of
the evaluation is not the cause of the outcome. -/
structure Terminates (ctx : EvaluationContext) (outside : List String) (q : Inquiry α) (limit : Nat)
    (outcome : Outcome α) : Prop where
  halts : ∃ n s, (Moment.start outside q).after ctx n = ⟨.finished outcome.result, s⟩ ∧
    s.lookups.reverse = outcome.lookups
  nested : ∀ n, let m := (Moment.start outside q).after ctx n
    m.progress.inProgress = m.activity.entered ++ outside ∧ m.progress.inProgress.Nodup ∧
      m.progress.inProgress.length ≤ limit
  covered : outcome.result ≠ .error .nestedTooDeeply

lemma reaches_finished {outside : List String} {q : Inquiry α} {t : Progress}
    {result : Except EvaluationError α}
    (h : (q.run ctx (ctx.evaluateDependency ctx.depthLimit)).runFrom
      { Progress.start with inProgress := outside } = (result, t)) :
    Reaches ctx (.start outside q) ⟨.finished result, t⟩ := by
  have hwalk : Reaches ctx (.start outside q) (Place.call.settle
      ((q.run ctx (ctx.evaluateDependency ctx.depthLimit)).runFrom
        { Progress.start with inProgress := outside })) := by
    have hask : ∀ (w : Waiting α) name t, t.inProgress = outside →
        Reaches ctx (w.ask ctx t name)
          (w.settle ((ctx.evaluateDependency ctx.depthLimit name).runFrom t)) :=
      fun w name t _ => reaches_ask (ctx.unvisited_le _) w name
    exact reaches_settle Place.lawful_call hask q rfl
  rw [h] at hwalk
  cases result with
  | error e => exact hwalk
  | ok value => exact hwalk.trans (.head (.refl _))

lemma terminates_of_run {outside : List String} (hn : outside.Nodup) {q : Inquiry α} {t : Progress}
    {result : Except EvaluationError α}
    (h : (q.run ctx (ctx.evaluateDependency ctx.depthLimit)).runFrom
      { Progress.start with inProgress := outside } = (result, t)) :
    Terminates ctx outside q (ctx.depthLimit + outside.length) ⟨result, t.lookups.reverse⟩ := by
  obtain ⟨n, hfinished⟩ := reaches_finished h
  have hs : ∀ n, ((Moment.start outside q).after ctx n).Stacked ctx outside :=
    fun n => (Moment.stacked_start hn q).after n
  refine ⟨⟨n, t, hfinished, rfl⟩, fun n => ⟨(hs n).inProgress, (hs n).nodup, (hs n).length_le⟩, ?_⟩
  rintro rfl
  have hc := (hs n).covered
  rw [hfinished] at hc
  exact hc rfl

lemma outcome_eq {step : EvaluationM α} {t : Progress} {result : Except EvaluationError α}
    (h : step.runFrom .start = (result, t)) : step.outcome = ⟨result, t.lookups.reverse⟩ := by
  rw [EvaluationM.outcome, h]

namespace Inquiry

lemma run_map (dependency : Dependency) (f : α → β) (q : Inquiry α) :
    (f <$> q).run ctx dependency = f <$> q.run ctx dependency := by
  change (q >>= fun a => pure (f a)).run ctx dependency = _
  rw [run_bind, map_eq_pure_bind]
  rfl

-- Nothing is in progress when a call asks, so there is an answer.
def ofName (name : String) : Inquiry Evaluation :=
  .evaluation name fun e => pure (e.getD .notFound)

def ofNames : List String → Inquiry (List (String × Evaluation))
  | [] => return []
  | name :: rest => do
    let e ← ofName name
    let others ← ofNames rest
    return (name, e) :: others

end Inquiry

lemma runFrom_ofName (name : String) (depth : Nat) {s : Progress} (hs : s.inProgress = []) :
    (((Inquiry.ofName name).run ctx (ctx.evaluateDependency depth)).runFrom s) =
      (ctx.evaluateByName depth name).runFrom s := by
  have hp : name ∉ s.inProgress := by simp [hs]
  rw [Inquiry.ofName, Inquiry.run, EvaluationM.runFrom_bind, EvaluationContext.evaluateDependency,
    EvaluationM.runFrom_unlessInProgress_of_notMem hp]
  rcases (ctx.evaluateByName depth name).runFrom s with ⟨e | e, t⟩
  · rfl
  · rfl

lemma runFrom_ofNames (names : List String) {s : Progress} (hs : s.inProgress = []) :
    (((Inquiry.ofNames names).run ctx (ctx.evaluateDependency ctx.depthLimit)).runFrom s) =
      (Evaluator.evaluateEach ctx names).runFrom s := by
  induction names generalizing s with
  | nil => rfl
  | cons name rest ih =>
    have ht := inProgress_evaluateByName ctx ctx.depthLimit name s
    rw [Inquiry.ofNames, Inquiry.run_bind, EvaluationM.runFrom_bind, runFrom_ofName name _ hs,
      Evaluator.evaluateEach, EvaluationM.runFrom_bind]
    rcases hrun : (ctx.evaluateByName ctx.depthLimit name).runFrom s with ⟨e | e, t⟩
    · rfl
    · rw [hrun] at ht
      simp only [Inquiry.run_bind, EvaluationM.runFrom_bind, ih (ht.trans hs)]
      rfl

/-- Each evaluation, of one flag, of several or of one that need not be stored, comes to an end, and
never are more flags in progress than are stored, beside the one that need not be. -/
theorem Evaluator.evaluation_terminates (e : Evaluator) (key : String)
    (bucketingKey : Option String) (attributes : Attributes) :
    let ctx := e.context key bucketingKey attributes
    (∀ name, Terminates ctx [] (.ofName name) ctx.depthLimit
      (e.evaluate name key bucketingKey attributes)) ∧
    (∀ names, Terminates ctx [] (Dictionary.ofList <$> .ofNames names) ctx.depthLimit
      (e.evaluateMany names key bucketingKey attributes)) ∧
    ∀ flag, Terminates ctx [flag.name] (flag.inquiry ctx) (ctx.depthLimit + 1)
      (e.evaluateFlag flag key bucketingKey attributes) := by
  intro ctx
  refine ⟨fun name => ?_, fun names => ?_, fun flag => ?_⟩
  · rcases hrun : (ctx.evaluateByName ctx.depthLimit name).runFrom .start with ⟨result, t⟩
    have houtcome : e.evaluate name key bucketingKey attributes = ⟨result, t.lookups.reverse⟩ :=
      outcome_eq hrun
    rw [houtcome]
    exact terminates_of_run List.nodup_nil ((runFrom_ofName name ctx.depthLimit rfl).trans hrun)
  · rcases hrun : (Dictionary.ofList <$> evaluateEach ctx names).runFrom .start with ⟨result, t⟩
    have houtcome : e.evaluateMany names key bucketingKey attributes =
        ⟨result, t.lookups.reverse⟩ := outcome_eq hrun
    rw [houtcome]
    refine terminates_of_run List.nodup_nil ?_
    rw [Inquiry.run_map, EvaluationM.runFrom_map, runFrom_ofNames names rfl, ← hrun,
      EvaluationM.runFrom_map]
    rfl
  · rcases hrun : ((flag.inquiry ctx).run ctx (ctx.evaluateDependency ctx.depthLimit)).runFrom
      { Progress.start with inProgress := [flag.name] } with ⟨result, t⟩
    have houtcome : e.evaluateFlag flag key bucketingKey attributes =
        ⟨result, t.lookups.reverse⟩ := outcome_eq (runFrom_evaluate hrun)
    rw [houtcome]
    have hn : [flag.name].Nodup := by simp
    exact terminates_of_run hn hrun

end Rollout
