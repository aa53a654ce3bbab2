import Mathlib.Data.List.Perm.Subperm
import Mathlib.Logic.Function.Iterate
import Rollout.Proofs.Evaluation.Path

/-! Evaluation one step at a time. The flags that have been entered form a stack. No step is given a
depth, and the guard against cycles alone keeps the stack small. -/

namespace Rollout

variable {α β : Type}

inductive Waiting (α : Type)
  | call (next : Option Evaluation → Inquiry α)
  | flag (name : String) (cutBefore : Bool) (next : Option Evaluation → Inquiry Evaluation)
      (outer : Waiting α)

inductive Activity (α : Type)
  | asking (q : Inquiry α)
  | walking (name : String) (cutBefore : Bool) (q : Inquiry Evaluation) (outer : Waiting α)
  | failing (e : EvaluationError) (name : String) (cutBefore : Bool) (outer : Waiting α)
  | finished (result : Except EvaluationError α)

structure Moment (α : Type) where
  activity : Activity α
  progress : Progress

namespace Progress

def enter (s : Progress) (name : String) : Progress :=
  { s with inProgress := name :: s.inProgress, cut := false }

def leave (s : Progress) (name : String) (cutBefore : Bool) : Progress :=
  { s with inProgress := s.inProgress.erase name, cut := cutBefore || s.cut }

def remember (s : Progress) (name : String) (e : Evaluation) : Progress :=
  { s with memo := if s.cut then s.memo else (name, e) :: s.memo }

end Progress

namespace Waiting

def entered : Waiting α → List String
  | call _ => []
  | flag name _ _ outer => name :: outer.entered

def answer (e : Option Evaluation) : Waiting α → Activity α
  | call next => .asking (next e)
  | flag name cutBefore next outer => .walking name cutBefore (next e) outer

def fail (e : EvaluationError) : Waiting α → Activity α
  | call _ => .finished (.error e)
  | flag name cutBefore _ outer => .failing e name cutBefore outer

def ask (ctx : EvaluationContext) (s : Progress) (name : String) (w : Waiting α) : Moment α :=
  if name ∈ s.inProgress then ⟨w.answer none, { s with cut := true }⟩
  else
    match s.memo.lookup name, ctx.flag? name with
    | some e, _ => ⟨w.answer (some e), s⟩
    | none, none =>
      ⟨w.answer (some .notFound), { s with memo := (name, .notFound) :: s.memo }⟩
    | none, some stored => ⟨.walking name s.cut (stored.inquiry ctx) w, s.enter name⟩

end Waiting

structure Place (α β : Type) where
  go : Inquiry β → Activity α
  wait : (Option Evaluation → Inquiry β) → Waiting α
  fail : EvaluationError → Activity α

namespace Place

def call : Place α α := ⟨.asking, .call, fun e => .finished (.error e)⟩

def within (name : String) (cutBefore : Bool) (outer : Waiting α) : Place α Evaluation :=
  ⟨fun q => .walking name cutBefore q outer, fun next => .flag name cutBefore next outer,
    fun e => .failing e name cutBefore outer⟩

def step (ctx : EvaluationContext) (p : Place α β) (finish : β → Moment α) (s : Progress) :
    Inquiry β → Moment α
  | .done value => finish value
  | .membership _ segment value next =>
    match (EvaluationM.isInSegment ctx segment value).runFrom s with
    | (.ok b, t) => ⟨p.go (next b), t⟩
    | (.error e, t) => ⟨p.fail e, t⟩
  | .evaluation name next => (p.wait next).ask ctx s name

end Place

namespace Activity

def entered : Activity α → List String
  | asking _ => []
  | walking name _ _ outer => name :: outer.entered
  | failing _ name _ outer => name :: outer.entered
  | finished _ => []

def error? : Activity α → Option EvaluationError
  | failing e _ _ _ => some e
  | finished (.error e) => some e
  | _ => none

end Activity

namespace Moment

def next (ctx : EvaluationContext) (m : Moment α) : Moment α :=
  match m.activity with
  | .asking q => Place.call.step ctx (fun value => ⟨.finished (.ok value), m.progress⟩) m.progress q
  | .walking name cutBefore q outer =>
    (Place.within name cutBefore outer).step ctx
      (fun e => ⟨outer.answer (some e), (m.progress.remember name e).leave name cutBefore⟩)
      m.progress q
  | .failing e name cutBefore outer => ⟨outer.fail e, m.progress.leave name cutBefore⟩
  | .finished _ => m

def after (ctx : EvaluationContext) (n : Nat) (m : Moment α) : Moment α := (next ctx)^[n] m

def start (outside : List String) (q : Inquiry α) : Moment α :=
  ⟨.asking q, { Progress.start with inProgress := outside }⟩

/-- The flags in progress are the ones that have been entered, on top of those outside the call. They
are stored and all different. -/
structure Stacked (ctx : EvaluationContext) (outside : List String) (m : Moment α) : Prop where
  inProgress : m.progress.inProgress = m.activity.entered ++ outside
  nodup : m.progress.inProgress.Nodup
  stored : ∀ name ∈ m.activity.entered, name ∈ ctx.names
  covered : m.activity.error? ≠ some .nestedTooDeeply

end Moment

variable {ctx : EvaluationContext} {outside : List String}

lemma Progress.inProgress_leave (s : Progress) {name : String} {rest : List String}
    (h : s.inProgress = name :: rest) (cutBefore : Bool) :
    (s.leave name cutBefore).inProgress = rest := by
  change s.inProgress.erase name = rest
  rw [h]
  exact List.erase_cons_head ..

lemma Waiting.entered_answer (w : Waiting α) (e : Option Evaluation) :
    (w.answer e).entered = w.entered := by
  cases w <;> rfl

lemma Waiting.entered_fail (w : Waiting α) (e : EvaluationError) :
    (w.fail e).entered = w.entered := by
  cases w <;> rfl

lemma Waiting.error?_answer (w : Waiting α) (e : Option Evaluation) : (w.answer e).error? = none := by
  cases w <;> rfl

lemma Waiting.error?_fail (w : Waiting α) (e : EvaluationError) : (w.fail e).error? = some e := by
  cases w <;> rfl

namespace Moment

lemma stacked_of_entered {a : Activity α} {s : Progress} {entered : List String}
    (ha : a.entered = entered) (hi : s.inProgress = entered ++ outside) (hn : s.inProgress.Nodup)
    (hs : ∀ name ∈ entered, name ∈ ctx.names) (hc : a.error? ≠ some .nestedTooDeeply) :
    Stacked ctx outside ⟨a, s⟩ := by
  subst ha
  exact ⟨hi, hn, hs, hc⟩

lemma stacked_answer {w : Waiting α} {s : Progress} (hi : s.inProgress = w.entered ++ outside)
    (hn : s.inProgress.Nodup) (hs : ∀ name ∈ w.entered, name ∈ ctx.names) (e : Option Evaluation) :
    Stacked ctx outside ⟨w.answer e, s⟩ := by
  have hc : (w.answer e).error? ≠ some .nestedTooDeeply := by
    rw [w.error?_answer]
    exact (Option.some_ne_none _).symm
  exact stacked_of_entered (w.entered_answer e) hi hn hs hc

lemma stacked_ask {w : Waiting α} {s : Progress} (hi : s.inProgress = w.entered ++ outside)
    (hn : s.inProgress.Nodup) (hs : ∀ name ∈ w.entered, name ∈ ctx.names) (name : String) :
    Stacked ctx outside (w.ask ctx s name) := by
  rw [Waiting.ask]
  by_cases hp : name ∈ s.inProgress
  · rw [if_pos hp]
    exact stacked_answer (s := { s with cut := true }) hi hn hs none
  · rw [if_neg hp]
    split
    · exact stacked_answer hi hn hs _
    · exact stacked_answer (s := { s with memo := (name, .notFound) :: s.memo }) hi hn hs _
    · -- the stack grows here only, by a flag that the guard has found not to be on it
      rename_i hf
      refine ⟨congrArg (name :: ·) hi, List.nodup_cons.mpr ⟨hp, hn⟩, ?_, ?_⟩
      · exact List.forall_mem_cons.mpr ⟨EvaluationContext.mem_names hf, hs⟩
      · exact Option.some_ne_none _ |>.symm

lemma stacked_fail {w : Waiting α} {s : Progress} (hi : s.inProgress = w.entered ++ outside)
    (hn : s.inProgress.Nodup) (hs : ∀ name ∈ w.entered, name ∈ ctx.names) {e : EvaluationError}
    (he : e ≠ .nestedTooDeeply) : Stacked ctx outside ⟨w.fail e, s⟩ := by
  have hc : (w.fail e).error? ≠ some .nestedTooDeeply := by
    rw [w.error?_fail]
    exact fun h => he (Option.some.inj h)
  exact stacked_of_entered (w.entered_fail e) hi hn hs hc

end Moment

structure Place.Within (p : Place α β) (entered : List String) : Prop where
  go : ∀ q, (p.go q).entered = entered ∧ (p.go q).error? = none
  wait : ∀ next, (p.wait next).entered = entered
  fail : ∀ e, (p.fail e).entered = entered ∧ (p.fail e).error? = some e

namespace Moment

lemma stacked_step {p : Place α β} {entered : List String} {s : Progress} (hp : p.Within entered)
    (hi : s.inProgress = entered ++ outside) (hn : s.inProgress.Nodup)
    (hs : ∀ name ∈ entered, name ∈ ctx.names) {finish : β → Moment α}
    (hf : ∀ value, Stacked ctx outside (finish value)) (q : Inquiry β) :
    Stacked ctx outside (p.step ctx finish s q) := by
  cases q with
  | done value => exact hf value
  | membership place segment value next =>
    rw [Place.step, EvaluationM.isInSegment]
    cases ctx.segments with
    | none =>
      obtain ⟨he, herr⟩ := hp.fail (.segmentLookupMissing segment)
      exact stacked_of_entered he hi hn hs fun h => by cases herr.symm.trans h
    | some lookup =>
      obtain ⟨he, herr⟩ := hp.go (next (lookup segment value))
      exact stacked_of_entered he hi hn hs fun h => by cases herr.symm.trans h
  | evaluation name next =>
    have hw : (p.wait next).entered = entered := hp.wait next
    exact stacked_ask (hw ▸ hi) hn (hw ▸ hs) name

lemma Stacked.next {m : Moment α} (h : Stacked ctx outside m) : Stacked ctx outside (m.next ctx) := by
  obtain ⟨activity, s⟩ := m
  obtain ⟨hi, hn, hs, hc⟩ := h
  cases activity with
  | asking q =>
    have hp : (Place.call : Place α α).Within [] :=
      ⟨fun _ => ⟨rfl, rfl⟩, fun _ => rfl, fun _ => ⟨rfl, rfl⟩⟩
    have hf : ∀ value, Stacked ctx outside (⟨.finished (.ok value), s⟩ : Moment α) :=
      fun _ => ⟨hi, hn, hs, hc⟩
    exact stacked_step hp hi hn hs hf q
  | walking name cutBefore q outer =>
    have hp : (Place.within name cutBefore outer).Within (name :: outer.entered) :=
      ⟨fun _ => ⟨rfl, rfl⟩, fun _ => rfl, fun _ => ⟨rfl, rfl⟩⟩
    refine stacked_step hp hi hn hs (fun e => ?_) q
    have hleft := (s.remember name e).inProgress_leave hi cutBefore
    exact stacked_answer hleft (hn.erase name) (fun other ho => hs other (List.mem_cons_of_mem _ ho))
      (some e)
  | failing e name cutBefore outer =>
    have hleft := s.inProgress_leave hi cutBefore
    exact stacked_fail hleft (hn.erase name) (fun other ho => hs other (List.mem_cons_of_mem _ ho))
      fun he => hc (congrArg some he)
  | finished result => exact ⟨hi, hn, hs, hc⟩

lemma Stacked.after {m : Moment α} (h : Stacked ctx outside m) (n : Nat) :
    Stacked ctx outside (m.after ctx n) := by
  induction n generalizing m with
  | zero => exact h
  | succ n ih => exact ih h.next

lemma stacked_start (hn : outside.Nodup) (q : Inquiry α) :
    Stacked ctx outside (start outside q) :=
  ⟨rfl, hn, by simp [start, Activity.entered], by simp [start, Activity.error?]⟩

lemma Stacked.length_le {m : Moment α} (h : Stacked ctx outside m) :
    m.progress.inProgress.length ≤ ctx.depthLimit + outside.length := by
  have hn : m.activity.entered.Nodup := by
    have hn := h.nodup
    rw [h.inProgress] at hn
    exact (List.nodup_append.mp hn).1
  have hle : m.activity.entered.length ≤ ctx.names.length :=
    (List.subperm_of_subset hn h.stored).length_le
  rw [h.inProgress, List.length_append]
  rw [ctx.length_names] at hle
  omega

end Moment

end Rollout
