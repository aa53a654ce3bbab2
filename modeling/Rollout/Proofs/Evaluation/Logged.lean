import Rollout.Proofs.Evaluation.Events
import Rollout.Proofs.Evaluation.Memo

/-! As long as no dependency is cut, a flag that is walked was not remembered before and is
remembered afterwards. So the events of two steps in a row are different. -/

namespace Rollout

variable {α β : Type} {ctx : EvaluationContext}

/-- The events of a step are all different. They are walks of flags below the one at hand, none of
them remembered before and all of them remembered after, and the questions of its own matchers and
of those of the flags walked. -/
structure Logged (ctx : EvaluationContext) (own : MatcherPlace → Prop) (below : String → Prop)
    (s : Progress) (events : List Event) (outcome : Except EvaluationError α × Progress) : Prop where
  nodup : events.Nodup
  walks : ∀ name, .walk name ∈ events → below name ∧ s.memo.lookup name = none
  asks : ∀ place, .ask place ∈ events → own place ∨ .walk place.flag ∈ events
  lookups : outcome.2.lookups.reverse.map some =
    s.lookups.reverse.map some ++ (events.filterMap Event.place?).map ctx.lookupAt?
  grows : s.Grows outcome.2
  uncut : outcome.2.cut = false
  remembered : ∀ value, outcome.1 = .ok value →
    ∀ name, .walk name ∈ events → (outcome.2.memo.lookup name).isSome

namespace Progress.Grows

variable {s t : Progress} {name : String}

lemma isSome_lookup (h : s.Grows t) (hs : (s.memo.lookup name).isSome) :
    (t.memo.lookup name).isSome := by
  obtain ⟨e, he⟩ := Option.isSome_iff_exists.mp hs
  exact Option.isSome_iff_exists.mpr ⟨e, h.memo name e he⟩

lemma lookup_eq_none (h : s.Grows t) (ht : t.memo.lookup name = none) :
    s.memo.lookup name = none := by
  by_contra hs
  have hsome := h.isSome_lookup (Option.isSome_iff_ne_none.mpr hs)
  rw [ht] at hsome
  cases hsome

end Progress.Grows

namespace Logged

variable {own own' : MatcherPlace → Prop} {below below' : String → Prop} {s t : Progress}
  {events : List Event} {outcome : Except EvaluationError α × Progress}

lemma of_no_events (hg : s.Grows t) (hl : t.lookups = s.lookups) (hc : t.cut = false)
    (result : Except EvaluationError α) : Logged ctx own below s [] (result, t) := by
  refine ⟨List.nodup_nil, ?_, ?_, ?_, hg, hc, ?_⟩
  · exact fun _ h => absurd h List.not_mem_nil
  · exact fun _ h => absurd h List.not_mem_nil
  · simp [hl]
  · exact fun _ _ _ h => absurd h List.not_mem_nil

lemma mono (h : Logged ctx own below s events outcome) (ho : ∀ place, own place → own' place)
    (hb : ∀ name, below name → below' name) : Logged ctx own' below' s events outcome := by
  refine ⟨h.nodup, ?_, ?_, h.lookups, h.grows, h.uncut, h.remembered⟩
  · exact fun name hn => ⟨hb name (h.walks name hn).1, (h.walks name hn).2⟩
  · exact fun place hp => (h.asks place hp).imp_left (ho place)

lemma map (h : Logged ctx own below s events outcome) (f : α → β) :
    Logged ctx own below s events (outcome.1.map f, outcome.2) := by
  refine ⟨h.nodup, h.walks, h.asks, h.lookups, h.grows, h.uncut, fun value hv => ?_⟩
  rcases hr : outcome.1 with e | v
  · rw [hr] at hv
    cases hv
  · exact h.remembered v hr

section Append

variable {own₁ own₂ : MatcherPlace → Prop} {events₁ events₂ : List Event} {value : α}
  {outcome₂ : Except EvaluationError β × Progress}

lemma notMem_walk_of_mem (h₁ : Logged ctx own₁ below s events₁ ((.ok value, t) : Except _ α × _))
    (h₂ : Logged ctx own₂ below t events₂ outcome₂) {name : String} (h : .walk name ∈ events₁) :
    .walk name ∉ events₂ := by
  intro hnext
  have hsome : (t.memo.lookup name).isSome := h₁.remembered value rfl name h
  rw [(h₂.walks name hnext).2] at hsome
  cases hsome

lemma nodup_append (h₁ : Logged ctx own₁ below s events₁ ((.ok value, t) : Except _ α × _))
    (h₂ : Logged ctx own₂ below t events₂ outcome₂)
    (ho₁ : ∀ place, own₁ place → ¬ own₂ place ∧ ¬ below place.flag)
    (ho₂ : ∀ place, own₂ place → ¬ below place.flag) : (events₁ ++ events₂).Nodup := by
  rw [List.nodup_append]
  refine ⟨h₁.nodup, h₂.nodup, ?_⟩
  rintro event hfirst _ hnext rfl
  cases event with
  | walk name => exact notMem_walk_of_mem h₁ h₂ hfirst hnext
  | ask place =>
    -- its flag is the one at hand or one that is walked, in the first step and in the second
    rcases h₁.asks place hfirst with hown₁ | hwalk₁
    · rcases h₂.asks place hnext with hown₂ | hwalk₂
      · exact (ho₁ place hown₁).1 hown₂
      · exact (ho₁ place hown₁).2 (h₂.walks _ hwalk₂).1
    · rcases h₂.asks place hnext with hown₂ | hwalk₂
      · exact ho₂ place hown₂ (h₁.walks _ hwalk₁).1
      · exact notMem_walk_of_mem h₁ h₂ hwalk₁ hwalk₂

lemma append (h₁ : Logged ctx own₁ below s events₁ ((.ok value, t) : Except _ α × _))
    (h₂ : Logged ctx own₂ below t events₂ outcome₂)
    (ho₁ : ∀ place, own₁ place → own place ∧ ¬ own₂ place) (ho₂ : ∀ place, own₂ place → own place)
    (hb : ∀ place, own place → ¬ below place.flag) :
    Logged ctx own below s (events₁ ++ events₂) outcome₂ := by
  refine ⟨?_, ?_, ?_, ?_, h₁.grows.trans h₂.grows, h₂.uncut, ?_⟩
  · exact nodup_append h₁ h₂ (fun place h => ⟨(ho₁ place h).2, hb place (ho₁ place h).1⟩)
      fun place h => hb place (ho₂ place h)
  · intro name hname
    rcases List.mem_append.mp hname with hfirst | hnext
    · exact h₁.walks name hfirst
    · obtain ⟨hbelow, ht⟩ := h₂.walks name hnext
      exact ⟨hbelow, h₁.grows.lookup_eq_none ht⟩
  · intro place hplace
    rcases List.mem_append.mp hplace with hfirst | hnext
    · exact (h₁.asks place hfirst).imp (fun h => (ho₁ place h).1) (List.mem_append_left _)
    · exact (h₂.asks place hnext).imp (ho₂ place) (List.mem_append_right _)
  · rw [h₂.lookups, h₁.lookups, List.filterMap_append, List.map_append, List.append_assoc]
  · intro v hv name hname
    rcases List.mem_append.mp hname with hfirst | hnext
    · have hsome : (t.memo.lookup name).isSome := h₁.remembered value rfl name hfirst
      exact h₂.grows.isSome_lookup hsome
    · exact h₂.remembered v hv name hnext

end Append

lemma bind {step : EvaluationM α} {next : α → EvaluationM β} {log : Log Event}
    {logNext : α → Log Event} {own₁ own₂ : MatcherPlace → Prop}
    (h : Logged ctx own₁ below s (log s) (step.runFrom s))
    (hn : ∀ value t, t.inProgress = s.inProgress → t.cut = false →
      Logged ctx own₂ below t (logNext value t) ((next value).runFrom t))
    (ho₁ : ∀ place, own₁ place → own place ∧ ¬ own₂ place) (ho₂ : ∀ place, own₂ place → own place)
    (hb : ∀ place, own place → ¬ below place.flag) :
    Logged ctx own below s (step.logThen log logNext s) ((step >>= next).runFrom s) := by
  rw [EvaluationM.runFrom_bind, EvaluationM.logThen]
  rcases hrun : step.runFrom s with ⟨e | value, t⟩
  · rw [hrun] at h
    have h' := h.mono (fun place hown => (ho₁ place hown).1) fun _ hbelow => hbelow
    rw [List.append_nil]
    exact ⟨h'.nodup, h'.walks, h'.asks, h'.lookups, h'.grows, h'.uncut, fun _ hv => by cases hv⟩
  · rw [hrun] at h
    exact h.append (hn value t h.grows.inProgress h.uncut) ho₁ ho₂ hb

end Logged

section Inquiry

variable {dependency : Dependency} {log : String → Log Event} {below : String → Prop}
  {own : MatcherPlace → Prop} {path : List String} {s : Progress}

def LoggedBelow (ctx : EvaluationContext) (dependency : Dependency) (log : String → Log Event)
    (below : String → Prop) (path : List String) (other : String) : Prop :=
  ∀ t : Progress, t.inProgress = path → t.cut = false →
    Logged ctx (fun _ => False) below t (log other t) ((dependency other).runFrom t)

lemma logged_isInSegment {place : MatcherPlace} {segment value : String}
    (hplace : ctx.segments.isSome → ctx.lookupAt? place = some (segment, value))
    (hc : s.cut = false) :
    Logged ctx (· = place) below s
      (if ctx.segments.isSome then Recorder.events.asked place else [])
      ((EvaluationM.isInSegment ctx segment value).runFrom s) := by
  rw [EvaluationM.isInSegment]
  cases hl : ctx.segments with
  | none => exact .of_no_events (.refl s) rfl hc _
  | some lookup =>
    have hlookup : ctx.lookupAt? place = some (segment, value) := hplace (by rw [hl]; rfl)
    refine ⟨?_, ?_, ?_, ?_, ⟨rfl, fun _ _ h => h, id⟩, hc, ?_⟩ <;>
      simp [Recorder.events, Event.place?, hlookup]

lemma logged_inquiry {flags segments : String → Prop} {q : Inquiry α} (ha : q.Asks ctx own)
    (hw : q.Within flags segments)
    (hd : ∀ other, flags other → LoggedBelow ctx dependency log below path other)
    (hb : ∀ place, own place → ¬ below place.flag) (hp : s.inProgress = path) (hc : s.cut = false) :
    Logged ctx own below s (q.log ctx dependency .events log s)
      ((q.run ctx dependency).runFrom s) := by
  induction q generalizing own s with
  | done value => exact .of_no_events (.refl s) rfl hc _
  | membership place segment value next ih =>
    obtain ⟨hown, hplace, hnext⟩ := ha
    apply (logged_isInSegment hplace hc).bind
    · exact fun b t ht hct => ih b (hnext b) (hw.2 b) (fun other h => hb other h.1) (ht.trans hp) hct
    · rintro _ rfl
      exact ⟨hown, fun h => h.2 rfl⟩
    · exact fun other h => h.1
    · exact hb
  | evaluation flag next ih =>
    apply (hd flag hw.1 s hp hc).bind
    · exact fun e t ht hct => ih e (ha e) (hw.2 e) hb (ht.trans hp) hct
    · exact fun _ h => h.elim
    · exact fun _ h => h
    · exact hb

end Inquiry

end Rollout
