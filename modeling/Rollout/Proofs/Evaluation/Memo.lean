import Rollout.Proofs.Evaluation.Path

/-! What is remembered during a call was found without a cut, from what was remembered before it.
Hence it does not depend on the path on which it was found. -/

namespace Rollout

abbrev Memo := List (String × Evaluation)

lemma lookup_cons_of_none {memo : Memo} {name other : String} {e v : Evaluation}
    (hn : memo.lookup name = none) (h : memo.lookup other = some v) :
    List.lookup other ((name, e) :: memo) = some v := by
  have hne : (other == name) = false := by
    by_contra heq
    obtain rfl := beq_iff_eq.mp (Bool.not_eq_false _ ▸ heq)
    simp [hn] at h
  rw [List.lookup_cons, hne]
  exact h

namespace Inquiry

variable {α : Type} {lookup : String → String → Except EvaluationError Bool}

inductive Yields (lookup : String → String → Except EvaluationError Bool)
    (known : String → Option Evaluation) : Inquiry α → α → Prop
  | done (value : α) : Yields lookup known (.done value) value
  | membership {place : MatcherPlace} {segment value : String} {next : Bool → Inquiry α} {b : Bool} {result : α} :
      lookup segment value = .ok b → Yields lookup known (next b) result →
      Yields lookup known (.membership place segment value next) result
  | evaluation {flag : String} {next : Option Evaluation → Inquiry α} {e : Evaluation}
      {result : α} :
      known flag = some e → Yields lookup known (next (some e)) result →
      Yields lookup known (.evaluation flag next) result

lemma Yields.resolve_eq {known : String → Option Evaluation}
    {dependency : String → Except EvaluationError (Option Evaluation)} {q : Inquiry α} {result : α}
    (h : q.Yields lookup known result)
    (hk : ∀ name e, known name = some e → dependency name = .ok (some e)) :
    q.resolve lookup dependency = .ok result := by
  induction h with
  | done value => rfl
  | membership hb _ ih =>
    rw [resolve, hb]
    exact ih
  | evaluation he _ ih =>
    rw [resolve, hk _ _ he]
    exact ih

end Inquiry

/-- Each entry follows from the entries that were there before it. -/
inductive Justified (ctx : EvaluationContext) : Memo → Prop
  | nil : Justified ctx []
  | cons {memo : Memo} {name : String} {e : Evaluation} : memo.lookup name = none →
      (ctx.inquiry name).Yields ctx.membership (fun other => memo.lookup other) e → Justified ctx memo →
      Justified ctx ((name, e) :: memo)

lemma Justified.evaluateOnPath_eq {ctx : EvaluationContext} {memo : Memo} (h : Justified ctx memo)
    {path : List String} (apart : ∀ name ∈ path, memo.lookup name = none) {name : String}
    {e : Evaluation} (he : memo.lookup name = some e) (fresh : name ∉ path) :
    ctx.evaluateOnPath path name fresh = .ok e := by
  induction h generalizing path name e with
  | nil => simp at he
  | @cons memo latest v hl hy _ ih =>
    have hrest : ∀ other ∈ path, memo.lookup other = none ∧ other ≠ latest := by
      intro other ho
      have ha := apart other ho
      rw [List.lookup_cons] at ha
      split at ha
      · simp at ha
      · rename_i hne
        exact ⟨ha, by simpa using hne⟩
    rw [List.lookup_cons] at he
    split at he
    · rename_i heq
      obtain rfl : name = latest := by simpa using heq
      obtain rfl : v = e := Option.some.inj he
      rw [EvaluationContext.evaluateOnPath_eq]
      apply hy.resolve_eq
      intro other d hd
      have hne : other ∉ name :: path := by
        intro hm
        rcases List.mem_cons.mp hm with rfl | hm
        · simp [hl] at hd
        · simp [(hrest other hm).1] at hd
      rw [EvaluationContext.dependencyOnPath, dif_neg hne]
      rw [ih (List.forall_mem_cons.mpr ⟨hl, fun other ho => (hrest other ho).1⟩) hd hne]
      rfl
    · exact ih (fun other ho => (hrest other ho).1) he fresh

structure Progress.Sound (ctx : EvaluationContext) (s : Progress) : Prop where
  justified : Justified ctx s.memo
  apart : ∀ name ∈ s.inProgress, s.memo.lookup name = none

structure Progress.Grows (s t : Progress) : Prop where
  inProgress : t.inProgress = s.inProgress
  memo : ∀ name e, s.memo.lookup name = some e → t.memo.lookup name = some e
  cut : s.cut = true → t.cut = true

namespace Progress.Grows

lemma refl (s : Progress) : s.Grows s := ⟨rfl, fun _ _ h => h, id⟩

lemma trans {s t u : Progress} (h : s.Grows t) (h' : t.Grows u) : s.Grows u :=
  ⟨h'.inProgress.trans h.inProgress, fun name e he => h'.memo name e (h.memo name e he),
    fun hc => h'.cut (h.cut hc)⟩

lemma uncut {s t : Progress} (h : s.Grows t) (ht : t.cut = false) : s.cut = false := by
  cases hs : s.cut with
  | false => rfl
  | true => rw [h.cut hs] at ht; cases ht

end Progress.Grows

/-- An outcome from `s` has the expected result, and unless a cut was met the memo settles it. -/
structure Agrees {α : Type} (ctx : EvaluationContext) (s : Progress)
    (outcome : Except EvaluationError α × Progress) (expected : Except EvaluationError α)
    (settles : Memo → α → Prop) : Prop where
  result : outcome.1 = expected
  sound : outcome.2.Sound ctx
  grows : s.Grows outcome.2
  settled : outcome.2.cut = false → ∀ value, expected = .ok value → settles outcome.2.memo value

namespace Agrees

variable {α β : Type} {ctx : EvaluationContext} {s t : Progress}
variable {expected : Except EvaluationError α} {settles : Memo → α → Prop}

lemma error {e : EvaluationError} (ht : t.Sound ctx) (hg : s.Grows t) :
    Agrees ctx s (.error e, t) (.error e) settles :=
  ⟨rfl, ht, hg, fun _ _ hv => by cases hv⟩

lemma ok {value : α} (ht : t.Sound ctx) (hg : s.Grows t)
    (h : t.cut = false → settles t.memo value) : Agrees ctx s (.ok value, t) (.ok value) settles := by
  refine ⟨rfl, ht, hg, ?_⟩
  rintro hc _ ⟨⟩
  exact h hc

lemma imp {outcome : Except EvaluationError α × Progress} {settles' : Memo → α → Prop}
    (h : Agrees ctx s outcome expected settles)
    (hi : ∀ t : Progress, s.Grows t → t.cut = false → ∀ value, settles t.memo value →
      settles' t.memo value) : Agrees ctx s outcome expected settles' :=
  ⟨h.result, h.sound, h.grows,
    fun hc value he => hi _ h.grows hc value (h.settled hc value he)⟩

lemma map {outcome : Except EvaluationError α × Progress} {settles' : Memo → β → Prop} {f : α → β}
    (h : Agrees ctx s outcome expected settles)
    (hi : ∀ memo value, settles memo value → settles' memo (f value)) :
    Agrees ctx s (outcome.1.map f, outcome.2) (expected.map f) settles' := by
  refine ⟨by rw [h.result], h.sound, h.grows, ?_⟩
  intro hc v hv
  cases expected with
  | error e => cases hv
  | ok value =>
    obtain rfl := Except.ok.inj hv
    exact hi _ _ (h.settled hc value rfl)

lemma bind {step : EvaluationM α} {next : α → EvaluationM β}
    {expected' : α → Except EvaluationError β} {settles' : Memo → β → Prop}
    (h : Agrees ctx s (step.runFrom s) expected settles)
    (hn : ∀ value t, t.Sound ctx → s.Grows t → (t.cut = false → settles t.memo value) →
      Agrees ctx t ((next value).runFrom t) (expected' value) settles') :
    Agrees ctx s ((step >>= next).runFrom s) (expected >>= expected') settles' := by
  rw [EvaluationM.runFrom_bind]
  rcases hrun : step.runFrom s with ⟨e | value, t⟩
  · rw [hrun] at h
    obtain rfl := h.result
    exact .error h.sound h.grows
  · rw [hrun] at h
    obtain rfl := h.result
    have hv := hn value t h.sound h.grows fun hc => h.settled hc value rfl
    exact ⟨hv.result, hv.sound, h.grows.trans hv.grows, hv.settled⟩

end Agrees

variable {ctx : EvaluationContext} {s : Progress}

lemma agrees_isInSegment (segment value : String) (hs : s.Sound ctx) :
    Agrees ctx s ((EvaluationM.isInSegment ctx segment value).runFrom s)
      (ctx.membership segment value) fun _ b => ctx.membership segment value = .ok b := by
  rw [EvaluationM.isInSegment, EvaluationContext.membership]
  cases ctx.segments with
  | none => exact .error hs (.refl s)
  | some lookup => exact .ok ⟨hs.justified, hs.apart⟩ ⟨rfl, fun _ _ h => h, id⟩ fun _ => rfl

lemma agrees_run {α : Type} {dependency : Dependency} {path : List String}
    (hd : ∀ other t, t.Sound ctx → t.inProgress = path →
      Agrees ctx t ((dependency other).runFrom t) (ctx.dependencyOnPath path other)
        fun memo e? => ∃ e, e? = some e ∧ memo.lookup other = some e)
    (q : Inquiry α) (hs : s.Sound ctx) (hp : s.inProgress = path) :
    Agrees ctx s ((q.run ctx dependency).runFrom s)
      (q.resolve ctx.membership (ctx.dependencyOnPath path))
      fun memo value => q.Yields ctx.membership (fun other => memo.lookup other) value := by
  induction q generalizing s with
  | done value => exact .ok hs (.refl s) fun _ => .done value
  | membership place segment value next ih =>
    apply (agrees_isInSegment segment value hs).bind
    intro b t ht hg hb
    apply (ih b ht (hg.inProgress.trans hp)).imp
    intro u hu hc result hy
    exact .membership (hb (hu.uncut hc)) hy
  | evaluation flag next ih =>
    apply (hd flag s hs hp).bind
    intro e? t ht hg he
    apply (ih e? ht (hg.inProgress.trans hp)).imp
    intro u hu hc result hy
    obtain ⟨e, rfl, hl⟩ := he (hu.uncut hc)
    exact .evaluation (hu.memo _ _ hl) hy

lemma agrees_inside {name : String} {body : EvaluationM Evaluation}
    {expected : Except EvaluationError Evaluation} {settles : Memo → Evaluation → Prop}
    (h : Agrees ctx { s with inProgress := name :: s.inProgress }
      (body.runFrom { s with inProgress := name :: s.inProgress }) expected settles) :
    Agrees ctx s ((EvaluationM.inside name body).runFrom s) expected
      fun memo e => memo.lookup name = none ∧ settles memo e := by
  obtain ⟨hr, ⟨hj, ha⟩, ⟨hi, hm, hc⟩, hd⟩ := h
  have herase : (body.runFrom { s with inProgress := name :: s.inProgress }).2.inProgress.erase
      name = s.inProgress := by
    rw [hi, List.erase_cons_head]
  rw [hi] at ha
  exact ⟨hr, ⟨hj, fun other ho => ha other (List.mem_cons_of_mem _ (herase ▸ ho))⟩,
    ⟨herase, hm, hc⟩, fun hc' e he => ⟨ha name List.mem_cons_self, hd hc' e he⟩⟩

lemma agrees_remembering {name : String} {make : EvaluationM Evaluation} (hs : s.Sound ctx)
    (fresh : name ∉ s.inProgress)
    (hm : s.memo.lookup name = none → Agrees ctx { s with cut := false }
      (make.runFrom { s with cut := false }) (ctx.evaluateOnPath s.inProgress name fresh)
      fun memo e => memo.lookup name = none ∧
        (ctx.inquiry name).Yields ctx.membership (fun other => memo.lookup other) e) :
    Agrees ctx s ((EvaluationM.remembering name make).runFrom s)
      (ctx.evaluateOnPath s.inProgress name fresh) fun memo e => memo.lookup name = some e := by
  rcases hl : s.memo.lookup name with _ | known
  · rcases hrun : make.runFrom { s with cut := false } with ⟨err | e, t⟩
    · obtain ⟨hr, ⟨hj, ha⟩, ⟨hi, hk, _⟩, _⟩ := hrun ▸ hm hl
      rw [EvaluationM.runFrom_remembering_of_error hl hrun, ← hr]
      exact .error ⟨hj, ha⟩ ⟨hi, hk, fun hc => by simp [hc]⟩
    · obtain ⟨hr, ⟨hj, ha⟩, ⟨hi, hk, _⟩, hd⟩ := hrun ▸ hm hl
      rw [EvaluationM.runFrom_remembering_of_ok hl hrun]
      cases hc : t.cut with
      | true =>
        rw [← hr, Bool.or_true]
        exact .ok ⟨hj, ha⟩ ⟨hi, hk, fun _ => rfl⟩ fun hc' => by cases hc'
      | false =>
        obtain ⟨hn, hy⟩ := hd hc e hr.symm
        rw [← hr, Bool.or_false]
        refine .ok ⟨.cons hn hy hj, ?_⟩
          ⟨hi, fun other v hv => lookup_cons_of_none hn (hk other v hv), id⟩
          fun _ => List.lookup_cons_self
        intro other ho
        have hne : (other == name) = false := by
          rw [beq_eq_false_iff_ne]
          rintro rfl
          exact fresh (hi ▸ ho)
        rw [if_neg (by simp), List.lookup_cons, hne]
        exact ha other ho
  · rw [EvaluationM.runFrom_remembering_of_some hl, hs.justified.evaluateOnPath_eq hs.apart hl fresh]
    exact .ok hs (.refl s) fun _ => hl

lemma agrees_unlessInProgress {name : String} {evaluate : EvaluationM Evaluation}
    (hs : s.Sound ctx)
    (h : ∀ fresh : name ∉ s.inProgress, Agrees ctx s (evaluate.runFrom s)
      (ctx.evaluateOnPath s.inProgress name fresh) fun memo e => memo.lookup name = some e) :
    Agrees ctx s ((EvaluationM.unlessInProgress name evaluate).runFrom s)
      (ctx.dependencyOnPath s.inProgress name)
      fun memo e? => ∃ e, e? = some e ∧ memo.lookup name = some e := by
  rw [EvaluationContext.dependencyOnPath]
  split
  · rename_i hm
    rw [EvaluationM.runFrom_unlessInProgress_of_mem hm]
    exact .ok ⟨hs.justified, hs.apart⟩ ⟨rfl, fun _ _ he => he, fun _ => rfl⟩ fun hc => by cases hc
  · rename_i hm
    rw [EvaluationM.runFrom_unlessInProgress_of_notMem hm]
    exact (h hm).map fun _ e he => ⟨e, rfl, he⟩

lemma agrees_evaluate {flag : FeatureFlag} {dependency : Dependency} (hs : s.Sound ctx)
    (hl : s.memo.lookup flag.name = none)
    (hd : ∀ other t, t.Sound ctx → t.inProgress = flag.name :: s.inProgress →
      Agrees ctx t ((dependency other).runFrom t)
        (ctx.dependencyOnPath (flag.name :: s.inProgress) other)
        fun memo e? => ∃ e, e? = some e ∧ memo.lookup other = some e) :
    Agrees ctx s ((flag.evaluate ctx dependency).runFrom s)
      ((flag.inquiry ctx).resolve ctx.membership
        (ctx.dependencyOnPath (flag.name :: s.inProgress)))
      fun memo e => memo.lookup flag.name = none ∧
        (flag.inquiry ctx).Yields ctx.membership (fun other => memo.lookup other) e := by
  rw [FeatureFlag.evaluate, FeatureFlag.evaluateBody_eq_run]
  apply agrees_inside
  have hs' : Progress.Sound ctx { s with inProgress := flag.name :: s.inProgress } :=
    ⟨hs.justified, List.forall_mem_cons.mpr ⟨hl, hs.apart⟩⟩
  exact agrees_run hd (flag.inquiry ctx) hs' rfl

lemma agrees_notFound {name : String} (hs : s.Sound ctx) (fresh : name ∉ s.inProgress)
    (hf : ctx.flag? name = none) (depth : Nat) :
    Agrees ctx s ((ctx.evaluateByName depth name).runFrom s)
      (ctx.evaluateOnPath s.inProgress name fresh) fun memo e => memo.lookup name = some e := by
  have hq : ctx.inquiry name = pure .notFound := by rw [EvaluationContext.inquiry, hf]
  rw [EvaluationContext.evaluateByName_of_none hf]
  refine agrees_remembering hs fresh fun hl => ?_
  rw [EvaluationContext.evaluateOnPath_eq, hq]
  exact .ok ⟨hs.justified, hs.apart⟩ (.refl _) fun _ => ⟨hl, .done _⟩

lemma agrees_evaluateByName {depth : Nat} {name : String} (hs : s.Sound ctx)
    (fresh : name ∉ s.inProgress) (hd : ctx.unvisited s.inProgress ≤ depth) :
    Agrees ctx s ((ctx.evaluateByName depth name).runFrom s)
      (ctx.evaluateOnPath s.inProgress name fresh) fun memo e => memo.lookup name = some e := by
  -- The depth covers the flags not in progress, and entering one takes one away from both.
  induction depth generalizing s name with
  | zero =>
    cases hf : ctx.flag? name with
    | none => exact agrees_notFound hs fresh hf 0
    | some flag =>
      have := EvaluationContext.unvisited_lt hf fresh
      omega
  | succ depth ih =>
    cases hf : ctx.flag? name with
    | none => exact agrees_notFound hs fresh hf (depth + 1)
    | some flag =>
      have hle : ctx.unvisited (name :: s.inProgress) ≤ depth := by
        have := EvaluationContext.unvisited_lt hf fresh
        omega
      have hq : ctx.inquiry name = flag.inquiry ctx := by rw [EvaluationContext.inquiry, hf]
      obtain rfl := EvaluationContext.name_of_flag? hf
      rw [EvaluationContext.evaluateByName_of_some hf]
      refine agrees_remembering hs fresh fun hl => ?_
      rw [EvaluationContext.evaluateOnPath_eq, hq]
      have hs' : Progress.Sound ctx { s with cut := false } := ⟨hs.justified, hs.apart⟩
      refine agrees_evaluate hs' hl fun other t ht hp => ?_
      rw [← hp]
      exact agrees_unlessInProgress ht fun hm => ih ht hm (by rw [hp]; exact hle)

end Rollout
