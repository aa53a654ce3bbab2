import Rollout.Proofs.Evaluation.Dependencies
import Rollout.Proofs.Evaluation.Log
import Rollout.Proofs.Evaluation.Termination

/-! What a call for a flag changes, whatever comes of it: flags that were called for within it
without a cut are remembered, a cut is noted, and nothing else is different. -/

namespace Rollout

variable {α β : Type}

def Call.isCut (c : Call) : Bool := c.before.inProgress.contains c.flag

def Recorder.calls : Recorder Call where
  called c := [c]
  walked _ := []
  asked _ := []

@[simp] lemma Recorder.asked_calls (place : MatcherPlace) : Recorder.calls.asked place = [] := rfl

section Log

variable (ctx : EvaluationContext)

namespace EvaluationContext

def calls (depth : Nat) (name : String) : Log Call := ctx.log .calls depth name

def callsOfEach (names : List String) : Log Call := ctx.logOfEach .calls names

def callsOfFlag (flag : FeatureFlag) : List Call :=
  (flag.inquiry ctx).log ctx (ctx.evaluateDependency ctx.depthLimit) .calls
    (ctx.calls ctx.depthLimit) (Progress.start.enter flag.name)

end EvaluationContext

namespace Call

def outcome (c : Call) : Except EvaluationError (Option Evaluation) × Progress :=
  (ctx.evaluateDependency c.depth c.flag).runFrom c.before

def within (c : Call) : List Call := ctx.calls c.depth c.flag c.before

structure Remembers (c : Call) (e : Evaluation) : Prop where
  result : (c.outcome ctx).1 = .ok (some e)
  uncut : (c.within ctx).any isCut = false
  before : c.before.memo.lookup c.flag = none
  after : (c.outcome ctx).2.memo.lookup c.flag = some e

end Call

/-- What the calls between two states do to what is kept. -/
structure Progress.Framed (calls : List Call) (s t : Progress) : Prop where
  inProgress : t.inProgress = s.inProgress
  cut : t.cut = (s.cut || calls.any Call.isCut)
  kept : ∀ name e, s.memo.lookup name = some e → t.memo.lookup name = some e
  added : ∀ name e, s.memo.lookup name = none → t.memo.lookup name = some e →
    ∃ c ∈ calls, c.flag = name ∧ c.Remembers ctx e

/-- All flags in progress are different, so they are a set. What is not cut is evaluated by name, and
remembered if nothing is cut within it. -/
structure Call.Framed (c : Call) : Prop where
  nodup : c.before.inProgress.Nodup
  dependency : Progress.Framed ctx (c.within ctx) c.before (c.outcome ctx).2
  byName : c.isCut = false → Progress.Framed ctx (c.within ctx) c.before
    ((ctx.evaluateByName c.depth c.flag).runFrom c.before).2
  remembered : ∀ e, (c.outcome ctx).1 = .ok (some e) → (c.within ctx).any isCut = false →
    (c.outcome ctx).2.memo.lookup c.flag = some e

end Log

variable {ctx : EvaluationContext}

section Progress

variable {s t u : Progress} {calls calls' : List Call} {c : Call} {e : Evaluation}

lemma Call.isCut_eq_false : c.isCut = false ↔ c.flag ∉ c.before.inProgress := by
  rw [isCut, List.contains_eq_mem, decide_eq_false_iff_not]

lemma Call.outcome_of_uncut (ctx : EvaluationContext) (hc : c.isCut = false) :
    c.outcome ctx = (((ctx.evaluateByName c.depth c.flag).runFrom c.before).1.map some,
      ((ctx.evaluateByName c.depth c.flag).runFrom c.before).2) :=
  EvaluationM.runFrom_unlessInProgress_of_notMem (isCut_eq_false.mp hc)

namespace Progress.Framed

lemma refl (s : Progress) : Framed ctx [] s s where
  inProgress := rfl
  cut := (Bool.or_false s.cut).symm
  kept _ _ he := he
  added name e hn he := by
    rw [hn] at he
    cases he

lemma append (h : Framed ctx calls s t) (h' : Framed ctx calls' t u) :
    Framed ctx (calls ++ calls') s u where
  inProgress := h'.inProgress.trans h.inProgress
  cut := by rw [h'.cut, h.cut, List.any_append, Bool.or_assoc]
  kept name e he := h'.kept name e (h.kept name e he)
  added name e hn he := by
    cases ht : t.memo.lookup name with
    | none =>
      obtain ⟨c, hc, hr⟩ := h'.added name e ht he
      exact ⟨c, List.mem_append_right _ hc, hr⟩
    | some e' =>
      obtain rfl : e' = e := Option.some.inj ((h'.kept name e' ht).symm.trans he)
      obtain ⟨c, hc, hr⟩ := h.added name e' hn ht
      exact ⟨c, List.mem_append_left _ hc, hr⟩

lemma cons (h : Framed ctx calls s t) (hc : c.isCut = false) : Framed ctx (c :: calls) s t where
  inProgress := h.inProgress
  cut := by rw [h.cut, List.any_cons, hc, Bool.false_or]
  kept := h.kept
  added name e hn he := by
    obtain ⟨d, hd, hr⟩ := h.added name e hn he
    exact ⟨d, List.mem_cons_of_mem _ hd, hr⟩

lemma cut_of_enter {name : String} (h : Framed ctx calls (s.enter name) t) :
    calls.any Call.isCut = t.cut :=
  (h.cut.trans (Bool.false_or _)).symm

lemma leave {name : String} (h : Framed ctx calls (s.enter name) t) :
    Framed ctx calls s (t.leave name s.cut) where
  inProgress := t.inProgress_leave h.inProgress s.cut
  cut := by
    rw [h.cut_of_enter]
    rfl
  kept := h.kept
  added := h.added

lemma remember (h : Framed ctx calls s t) (hc : c ∈ calls) (hl : s.memo.lookup c.flag = none)
    (hr : c.Remembers ctx e) : Framed ctx calls s { t with memo := (c.flag, e) :: t.memo } where
  inProgress := h.inProgress
  cut := h.cut
  kept name v hv := by
    have hne : name ≠ c.flag := by
      rintro rfl
      rw [hl] at hv
      cases hv
    rw [List.lookup_cons, beq_eq_false_iff_ne.mpr hne]
    exact h.kept name v hv
  added name v hn hv := by
    by_cases hname : name = c.flag
    · subst hname
      rw [List.lookup_cons_self] at hv
      obtain rfl := Option.some.inj hv
      exact ⟨c, hc, rfl, hr⟩
    · rw [List.lookup_cons, beq_eq_false_iff_ne.mpr hname] at hv
      exact h.added name v hn hv

end Progress.Framed

end Progress

open Progress (Framed)

section Steps

variable {step : EvaluationM α} {s : Progress}

lemma framed_bind {next : α → EvaluationM β} {calls : Log Call} {more : α → Log Call}
    (h : Framed ctx (calls s) s (step.runFrom s).2)
    (hn : ∀ value t, step.runFrom s = (.ok value, t) →
      Framed ctx (more value t) t ((next value).runFrom t).2) :
    Framed ctx (step.logThen calls more s) s ((step >>= next).runFrom s).2 := by
  rw [EvaluationM.logThen, EvaluationM.runFrom_bind]
  rcases hrun : step.runFrom s with ⟨err | value, t⟩
  · rw [hrun] at h
    rw [List.append_nil]
    exact h
  · rw [hrun] at h
    exact h.append (hn value t hrun)

lemma framed_isInSegment (segment value : String) :
    Framed ctx [] s ((EvaluationM.isInSegment ctx segment value).runFrom s).2 := by
  rw [EvaluationM.isInSegment]
  cases ctx.segments with
  | none => exact .refl s
  | some lookup =>
    have h : Framed ctx [] s s := .refl s
    exact ⟨h.inProgress, h.cut, h.kept, h.added⟩

lemma framed_run {dependency : Dependency} {below : String → Log Call}
    (hd : ∀ other t, Framed ctx (below other t) t ((dependency other).runFrom t).2) (q : Inquiry α)
    (s : Progress) :
    Framed ctx (q.log ctx dependency .calls below s) s ((q.run ctx dependency).runFrom s).2 := by
  induction q generalizing s with
  | done value => exact .refl s
  | membership place segment value next ih =>
    refine framed_bind ?_ fun b t _ => ih b t
    rw [Recorder.asked_calls, ite_self]
    exact framed_isInSegment segment value
  | evaluation flag next ih => exact framed_bind (hd flag s) fun e t _ => ih e t

end Steps

section Course

inductive Call.Goes (ctx : EvaluationContext) (c : Call) :
    List Call → Except EvaluationError (Option Evaluation) × Progress → Prop
  | cut : c.isCut = true → c.Goes ctx [] (.ok none, { c.before with cut := true })
  | known {e : Evaluation} : c.isCut = false → c.before.memo.lookup c.flag = some e →
      c.Goes ctx [] (.ok (some e), c.before)
  | notStored : c.isCut = false → c.before.memo.lookup c.flag = none → ctx.flag? c.flag = none →
      c.Goes ctx [] (.ok (some .notFound),
        { c.before with memo := (c.flag, .notFound) :: c.before.memo })
  | tooDeep : c.isCut = false → c.depth = 0 → c.Goes ctx [] (.error .nestedTooDeeply, c.before)
  | failed {flag : FeatureFlag} {depth : Nat} {err : EvaluationError} {t : Progress} :
      c.isCut = false → c.depth = depth + 1 → ctx.flag? c.flag = some flag →
      ((flag.inquiry ctx).run ctx (ctx.evaluateDependency depth)).runFrom (c.before.enter c.flag) =
        (.error err, t) →
      c.Goes ctx ((flag.inquiry ctx).log ctx (ctx.evaluateDependency depth) .calls (ctx.calls depth)
        (c.before.enter c.flag)) (.error err, t.leave c.flag c.before.cut)
  | walked {flag : FeatureFlag} {depth : Nat} {e : Evaluation} {t : Progress} :
      c.isCut = false → c.depth = depth + 1 → ctx.flag? c.flag = some flag →
      c.before.memo.lookup c.flag = none →
      ((flag.inquiry ctx).run ctx (ctx.evaluateDependency depth)).runFrom (c.before.enter c.flag) =
        (.ok e, t) →
      c.Goes ctx ((flag.inquiry ctx).log ctx (ctx.evaluateDependency depth) .calls (ctx.calls depth)
        (c.before.enter c.flag)) (.ok (some e), (t.remember c.flag e).leave c.flag c.before.cut)

lemma Call.goes_of_cut {c : Call} (hc : c.isCut = true) :
    c.within ctx = [c] ∧ c.Goes ctx [] (c.outcome ctx) := by
  have hp : c.flag ∈ c.before.inProgress := List.contains_iff_mem.mp hc
  have houtcome : c.outcome ctx = (.ok none, { c.before with cut := true }) :=
    EvaluationM.runFrom_unlessInProgress_of_mem hp
  rw [houtcome]
  exact ⟨EvaluationContext.log_of_mem hp, .cut hc⟩

lemma Call.goes_walk {name : String} {flag : FeatureFlag} {depth : Nat} {s : Progress}
    (hp : name ∉ s.inProgress) (hl : s.memo.lookup name = none) (hf : ctx.flag? name = some flag) :
    let c : Call := ⟨depth + 1, name, s⟩
    ∃ inner, c.within ctx = c :: inner ∧ c.Goes ctx inner (c.outcome ctx) := by
  intro c
  have hc : c.isCut = false := isCut_eq_false.mpr hp
  have hwithin : c.within ctx = c :: (flag.inquiry ctx).log ctx (ctx.evaluateDependency depth)
      .calls (ctx.calls depth) (s.enter name) := EvaluationContext.log_of_some hp hl hf
  refine ⟨_, hwithin, ?_⟩
  rw [outcome_of_uncut ctx hc, runFrom_evaluateByName_of_some hl hf]
  rcases hrun : ((flag.inquiry ctx).run ctx (ctx.evaluateDependency depth)).runFrom (s.enter name)
    with ⟨err | e, t⟩
  · exact .failed hc rfl hf hrun
  · exact .walked hc rfl hf hl hrun

lemma Call.goes (ctx : EvaluationContext) (c : Call) :
    ∃ inner, c.within ctx = c :: inner ∧ c.Goes ctx inner (c.outcome ctx) := by
  cases hc : c.isCut with
  | true => exact ⟨[], goes_of_cut hc⟩
  | false =>
    obtain ⟨depth, name, s⟩ := c
    have hp : name ∉ s.inProgress := isCut_eq_false.mp hc
    cases hl : s.memo.lookup name with
    | some e =>
      rw [outcome_of_uncut ctx hc, runFrom_evaluateByName_of_lookup hl]
      exact ⟨[], EvaluationContext.log_of_lookup hl, .known hc hl⟩
    | none =>
      cases hf : ctx.flag? name with
      | none =>
        rw [outcome_of_uncut ctx hc, runFrom_evaluateByName_of_none hl hf]
        exact ⟨[], EvaluationContext.log_of_none hf, .notStored hc hl hf⟩
      | some flag =>
        cases depth with
        | succ depth => exact goes_walk hp hl hf
        | zero =>
          have hbyName : (ctx.evaluateByName 0 name).runFrom s =
              (.error .nestedTooDeeply, { s with cut := s.cut || false }) := by
            unfold EvaluationContext.evaluateByName
            rw [hf]
            exact EvaluationM.runFrom_remembering_of_error hl (EvaluationM.runFrom_throw _ _)
          rw [outcome_of_uncut ctx hc, hbyName, Bool.or_false]
          exact ⟨[], EvaluationContext.log_zero, .tooDeep hc rfl⟩

end Course

section Frame

variable {s : Progress} {c : Call}

lemma Call.mem_within (c : Call) : c ∈ c.within ctx := by
  obtain ⟨inner, hwithin, -⟩ := c.goes ctx
  rw [hwithin]
  exact List.mem_cons_self

lemma Call.any_within {inner : List Call} (hwithin : c.within ctx = c :: inner)
    (hc : c.isCut = false) : (c.within ctx).any isCut = inner.any isCut := by
  rw [hwithin, List.any_cons, hc, Bool.false_or]

lemma framed_adding {e : Evaluation} {t : Progress} (h : Framed ctx (c.within ctx) c.before t)
    (hl : c.before.memo.lookup c.flag = none) (hcut : (c.within ctx).any Call.isCut = false)
    (houtcome : c.outcome ctx = (.ok (some e), { t with memo := (c.flag, e) :: t.memo })) :
    Framed ctx (c.within ctx) c.before (c.outcome ctx).2 := by
  have hr : c.Remembers ctx e := by
    refine ⟨?_, hcut, hl, ?_⟩
    · rw [houtcome]
    · rw [houtcome]
      exact List.lookup_cons_self
  rw [houtcome]
  exact h.remember c.mem_within hl hr

lemma Progress.remember_of_uncut {t : Progress} (ht : t.cut = false) (name : String)
    (e : Evaluation) : t.remember name e = { t with memo := (name, e) :: t.memo } := by
  rw [remember, ht]
  rfl

lemma framed_goes {inner : List Call} {o : Except EvaluationError (Option Evaluation) × Progress}
    (hwithin : c.within ctx = c :: inner) (houtcome : c.outcome ctx = o) (hgoes : c.Goes ctx inner o)
    (hd : ∀ depth, c.depth = depth + 1 → ∀ other t, Framed ctx (ctx.calls depth other t) t
      ((ctx.evaluateDependency depth other).runFrom t).2) :
    Framed ctx (c.within ctx) c.before (c.outcome ctx).2 := by
  cases hgoes with
  | cut hc =>
    rw [hwithin, houtcome]
    refine ⟨rfl, ?_, fun _ _ he => he, fun _ _ hn he => ?_⟩
    · rw [List.any_cons, hc, Bool.true_or, Bool.or_true]
    · cases hn.symm.trans he
  | known hc hl =>
    rw [hwithin, houtcome]
    exact (Framed.refl c.before).cons hc
  | notStored hc hl hf =>
    have hbefore : Framed ctx (c.within ctx) c.before c.before := by
      rw [hwithin]
      exact (Framed.refl c.before).cons hc
    exact framed_adding hbefore hl (c.any_within hwithin hc) houtcome
  | tooDeep hc hdepth =>
    rw [hwithin, houtcome]
    exact (Framed.refl c.before).cons hc
  | @failed flag depth err t hc hdepth hf hrun =>
    have hwalk := framed_run (hd depth hdepth) (flag.inquiry ctx) (c.before.enter c.flag)
    rw [hrun] at hwalk
    rw [hwithin, houtcome]
    exact hwalk.leave.cons hc
  | @walked flag depth e t hc hdepth hf hl hrun =>
    have hwalk := framed_run (hd depth hdepth) (flag.inquiry ctx) (c.before.enter c.flag)
    rw [hrun] at hwalk
    have hleft : Framed ctx (c.within ctx) c.before (t.leave c.flag c.before.cut) := by
      rw [hwithin]
      exact hwalk.leave.cons hc
    have hcut := (c.any_within hwithin hc).trans hwalk.cut_of_enter
    cases ht : t.cut with
    | true =>
      have hkept : t.remember c.flag e = t := by
        rw [Progress.remember, if_pos ht]
      rw [houtcome, hkept]
      exact hleft
    | false =>
      rw [t.remember_of_uncut ht] at houtcome
      exact framed_adding hleft hl (hcut.trans ht) houtcome

lemma framed_dependency (ctx : EvaluationContext) (depth : Nat) (name : String) (s : Progress) :
    Framed ctx (ctx.calls depth name s) s ((ctx.evaluateDependency depth name).runFrom s).2 := by
  induction depth generalizing name s with
  | zero =>
    obtain ⟨inner, hwithin, hgoes⟩ := (Call.mk 0 name s).goes ctx
    exact framed_goes hwithin rfl hgoes nofun
  | succ depth ih =>
    obtain ⟨inner, hwithin, hgoes⟩ := (Call.mk (depth + 1) name s).goes ctx
    refine framed_goes hwithin rfl hgoes fun d hd other t => ?_
    obtain rfl : depth = d := Nat.succ.inj hd
    exact ih other t

lemma Call.lookup_of_uncut {e : Evaluation} (he : (c.outcome ctx).1 = .ok (some e))
    (hcut : (c.within ctx).any isCut = false) :
    (c.outcome ctx).2.memo.lookup c.flag = some e := by
  obtain ⟨inner, hwithin, hgoes⟩ := c.goes ctx
  generalize c.outcome ctx = o at he hgoes ⊢
  cases hgoes with
  | cut hc => cases he
  | known hc hl =>
    obtain rfl := Option.some.inj (Except.ok.inj he)
    exact hl
  | notStored hc hl hf =>
    obtain rfl := Option.some.inj (Except.ok.inj he)
    exact List.lookup_cons_self
  | tooDeep hc hdepth => cases he
  | failed hc hdepth hf hrun => cases he
  | @walked flag depth v t hc hdepth hf hl hrun =>
    have hwalk := framed_run (framed_dependency ctx depth) (flag.inquiry ctx) (c.before.enter c.flag)
    rw [hrun] at hwalk
    have ht : t.cut = false := by
      rw [← hwalk.cut_of_enter, ← c.any_within hwithin hc]
      exact hcut
    obtain rfl := Option.some.inj (Except.ok.inj he)
    rw [t.remember_of_uncut ht]
    exact List.lookup_cons_self

end Frame

section Nodup

variable {s : Progress} {c : Call}

lemma nodup_inquiryCalls {depth : Nat}
    (hd : ∀ other t, t.inProgress.Nodup → ∀ c ∈ ctx.calls depth other t, c.before.inProgress.Nodup)
    (q : Inquiry α) (hs : s.inProgress.Nodup) :
    ∀ c ∈ q.log ctx (ctx.evaluateDependency depth) .calls (ctx.calls depth) s,
      c.before.inProgress.Nodup := by
  intro c hc
  induction q generalizing s with
  | done value => cases hc
  | membership place segment value next ih =>
    rcases EvaluationM.mem_logThen.mp hc with hc | ⟨b, t, hrun, hc⟩
    · rw [Recorder.asked_calls, ite_self] at hc
      cases hc
    · have hsegment : Framed ctx [] s _ := framed_isInSegment segment value
      have ht := hsegment.inProgress
      rw [hrun] at ht
      exact ih b (ht ▸ hs) hc
  | evaluation flag next ih =>
    rcases EvaluationM.mem_logThen.mp hc with hc | ⟨e, t, hrun, hc⟩
    · exact hd flag s hs c hc
    · have ht := (framed_dependency ctx depth flag s).inProgress
      rw [hrun] at ht
      exact ih e (ht ▸ hs) hc

lemma nodup_goes {inner : List Call} {o : Except EvaluationError (Option Evaluation) × Progress}
    (hgoes : c.Goes ctx inner o) (hs : c.before.inProgress.Nodup)
    (hd : ∀ depth, c.depth = depth + 1 → ∀ other t, t.inProgress.Nodup →
      ∀ d ∈ ctx.calls depth other t, d.before.inProgress.Nodup) :
    ∀ d ∈ c :: inner, d.before.inProgress.Nodup := by
  refine List.forall_mem_cons.mpr ⟨hs, ?_⟩
  have hentered : c.isCut = false → (c.before.enter c.flag).inProgress.Nodup :=
    fun hc => List.nodup_cons.mpr ⟨Call.isCut_eq_false.mp hc, hs⟩
  cases hgoes with
  | cut hc => exact List.forall_mem_nil _
  | known hc hl => exact List.forall_mem_nil _
  | notStored hc hl hf => exact List.forall_mem_nil _
  | tooDeep hc hdepth => exact List.forall_mem_nil _
  | failed hc hdepth hf hrun => exact nodup_inquiryCalls (hd _ hdepth) _ (hentered hc)
  | walked hc hdepth hf hl hrun => exact nodup_inquiryCalls (hd _ hdepth) _ (hentered hc)

lemma nodup_calls (depth : Nat) (name : String) (hs : s.inProgress.Nodup) :
    ∀ c ∈ ctx.calls depth name s, c.before.inProgress.Nodup := by
  induction depth generalizing name s with
  | zero =>
    obtain ⟨inner, hwithin, hgoes⟩ := (Call.mk 0 name s).goes ctx
    rw [Call.within] at hwithin
    rw [hwithin]
    exact nodup_goes hgoes hs nofun
  | succ depth ih =>
    obtain ⟨inner, hwithin, hgoes⟩ := (Call.mk (depth + 1) name s).goes ctx
    rw [Call.within] at hwithin
    rw [hwithin]
    refine nodup_goes hgoes hs fun d hd other t ht => ?_
    obtain rfl : depth = d := Nat.succ.inj hd
    exact ih other ht

lemma nodup_callsOfEach (names : List String) (hs : s.inProgress.Nodup) :
    ∀ c ∈ ctx.callsOfEach names s, c.before.inProgress.Nodup := by
  intro c hc
  induction names generalizing s with
  | nil => cases hc
  | cons name rest ih =>
    rcases EvaluationM.mem_logThen.mp hc with hc | ⟨e, t, hrun, hc⟩
    · exact nodup_calls ctx.depthLimit name hs c hc
    · have ht := inProgress_evaluateByName ctx ctx.depthLimit name s
      rw [hrun] at ht
      exact ih (ht ▸ hs) hc

end Nodup

section Callers

variable {s : Progress}

lemma Call.framed {c : Call} (hn : c.before.inProgress.Nodup) : c.Framed ctx := by
  have hdependency := framed_dependency ctx c.depth c.flag c.before
  refine ⟨hn, hdependency, fun hc => ?_, fun e => c.lookup_of_uncut⟩
  have houtcome := Call.outcome_of_uncut ctx hc
  rw [outcome] at houtcome
  rw [houtcome] at hdependency
  exact hdependency

lemma framed_evaluateEach (names : List String) (hs : s.inProgress = []) :
    Framed ctx (ctx.callsOfEach names s) s ((Evaluator.evaluateEach ctx names).runFrom s).2 := by
  induction names generalizing s with
  | nil => exact .refl s
  | cons name rest ih =>
    let c : Call := ⟨ctx.depthLimit, name, s⟩
    have hc : c.isCut = false := by
      rw [Call.isCut_eq_false, hs]
      exact List.not_mem_nil
    have hfirst : c.Framed ctx := by
      apply Call.framed
      rw [hs]
      exact List.nodup_nil
    rw [Evaluator.evaluateEach]
    apply framed_bind (hfirst.byName hc)
    intro e t hrun
    have ht := inProgress_evaluateByName ctx ctx.depthLimit name s
    rw [hrun] at ht
    rw [← map_eq_pure_bind, EvaluationM.runFrom_map]
    exact ih (ht.trans hs)

lemma framed_evaluate (flag : FeatureFlag) :
    Framed ctx (ctx.callsOfFlag flag) .start
      ((flag.evaluate ctx (ctx.evaluateDependency ctx.depthLimit)).runFrom .start).2 := by
  have hwalk := framed_run (framed_dependency ctx ctx.depthLimit) (flag.inquiry ctx)
    (Progress.start.enter flag.name)
  rcases hrun : ((flag.inquiry ctx).run ctx (ctx.evaluateDependency ctx.depthLimit)).runFrom
    (Progress.start.enter flag.name) with ⟨result, t⟩
  rw [hrun] at hwalk
  rw [runFrom_evaluate hrun]
  exact hwalk.leave

/-- Each call that is made when one flag, several or one that need not be stored are evaluated. The
caller itself changes nothing else in between. -/
theorem Evaluator.calls_framed (e : Evaluator) (key : String) (bucketingKey : Option String)
    (attributes : Attributes) :
    let ctx := e.context key bucketingKey attributes
    (∀ name, ∀ c ∈ ctx.calls ctx.depthLimit name .start, c.Framed ctx) ∧
    (∀ names, (∀ c ∈ ctx.callsOfEach names .start, c.Framed ctx) ∧
      Framed ctx (ctx.callsOfEach names .start) .start ((evaluateEach ctx names).runFrom .start).2) ∧
    ∀ flag, (∀ c ∈ ctx.callsOfFlag flag, c.Framed ctx) ∧
      Framed ctx (ctx.callsOfFlag flag) .start
        ((flag.evaluate ctx (ctx.evaluateDependency ctx.depthLimit)).runFrom .start).2 := by
  intro ctx
  have hstart : Progress.start.inProgress.Nodup := List.nodup_nil
  refine ⟨fun name c hc => ?_, fun names => ⟨fun c hc => ?_, ?_⟩, fun flag => ⟨fun c hc => ?_, ?_⟩⟩
  · exact Call.framed (nodup_calls ctx.depthLimit name hstart c hc)
  · exact Call.framed (nodup_callsOfEach names hstart c hc)
  · exact framed_evaluateEach names rfl
  · have hentered : (Progress.start.enter flag.name).inProgress.Nodup :=
      List.nodup_cons.mpr ⟨List.not_mem_nil, List.nodup_nil⟩
    have hcalls : ∀ other t, t.inProgress.Nodup →
        ∀ c ∈ ctx.calls ctx.depthLimit other t, c.before.inProgress.Nodup :=
      fun other t => nodup_calls ctx.depthLimit other
    exact Call.framed (nodup_inquiryCalls hcalls _ hentered c hc)
  · exact framed_evaluate flag

def checkoutLoop : Evaluator where
  configuration := some (.ofFlags [
    .guarded "home" [.onFlag "beta", .onFlag "checkout"],
    .guarded "checkout" [.onFlag "home"],
    .guarded "beta" []])
  segments := none

theorem calls_framed_checkoutLoop :
    let ctx := checkoutLoop.context "user-1" none .empty
    let beta : Evaluation := ⟨"on", "in segment", 1, none⟩
    let home : Call := ⟨3, "home", .start⟩
    let checkout : Call := ⟨2, "checkout", ⟨[("beta", beta)], ["home"], false, []⟩⟩
    let again : Call := ⟨3, "beta", ⟨[("beta", beta)], ["draft"], true, []⟩⟩
    let draft : FeatureFlag := .guarded "draft"
      [⟨.inTreatments "home" (.ofList ["off"]), false, none⟩, .onFlag "beta"]
    home.within ctx = [home, ⟨2, "beta", ⟨[], ["home"], false, []⟩⟩, checkout,
      ⟨1, "home", ⟨[("beta", beta)], ["checkout", "home"], false, []⟩⟩] ∧
    home.Framed ctx ∧ (home.outcome ctx).2 = ⟨[("beta", beta)], [], true, []⟩ ∧
    checkout ∈ ctx.callsOfEach ["home"] .start ∧ checkout.Framed ctx ∧
    again ∈ ctx.callsOfFlag draft ∧ again.Framed ctx ∧ (again.outcome ctx).2 = again.before := by
  intro ctx beta home checkout again draft
  obtain ⟨hname, hnames, hflag⟩ := Evaluator.calls_framed checkoutLoop "user-1" none .empty
  have hcheckout : checkout ∈ ctx.callsOfEach ["home"] .start := by decide +kernel
  have hagain : again ∈ ctx.callsOfFlag draft := by decide +kernel
  exact ⟨by decide +kernel, hname "home" home home.mem_within, by decide +kernel, hcheckout,
    (hnames _).1 _ hcheckout, hagain, (hflag _).1 _ hagain, by decide +kernel⟩

end Callers

end Rollout
