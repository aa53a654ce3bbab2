import Mathlib.Algebra.GroupWithZero.Nat
import Mathlib.Data.List.Nodup
import Rollout.Proofs.Evaluation.Logged
import Rollout.Proofs.Evaluation.Termination

/-! Where no flag depends on itself, a flag in progress is never asked for again, so no dependency
is cut and every flag that has been walked is remembered. -/

namespace Rollout

variable {α β : Type} {ctx : EvaluationContext}

open Relation (TransGen ReflTransGen)

def Above (ctx : EvaluationContext) (s : Progress) (name : String) : Prop :=
  ∀ p ∈ s.inProgress, TransGen ctx.DependsOn p name

lemma logged_remembered {name : String} {s : Progress} {below : String → Prop}
    {own : MatcherPlace → Prop} {known : Evaluation} (hl : s.memo.lookup name = some known)
    (hc : s.cut = false) (depth : Nat) :
    Logged ctx own below s (ctx.eventsByName depth name s)
      ((ctx.evaluateByName depth name).runFrom s) := by
  rw [EvaluationContext.eventsByName, EvaluationContext.log_of_lookup hl,
    runFrom_evaluateByName_of_lookup hl]
  exact .of_no_events (.refl s) rfl hc _

lemma logged_notFound {name : String} {s : Progress} {below : String → Prop}
    {own : MatcherPlace → Prop} (hf : ctx.flag? name = none) (hc : s.cut = false) (depth : Nat) :
    Logged ctx own below s (ctx.eventsByName depth name s)
      ((ctx.evaluateByName depth name).runFrom s) := by
  rw [EvaluationContext.eventsByName, EvaluationContext.log_of_none hf]
  cases hl : s.memo.lookup name with
  | some known =>
    rw [runFrom_evaluateByName_of_lookup hl]
    exact .of_no_events (.refl s) rfl hc _
  | none =>
    rw [runFrom_evaluateByName_of_none hl hf]
    have hgrows : s.Grows { s with memo := (name, .notFound) :: s.memo } :=
      ⟨rfl, fun _ _ => lookup_cons_of_none hl, id⟩
    exact .of_no_events hgrows rfl hc _

lemma Logged.walk {name : String} {s t u : Progress} {events : List Event}
    {result : Except EvaluationError α} {result' : Except EvaluationError β} (hacyclic : ctx.Acyclic)
    (hl : s.memo.lookup name = none)
    (h : Logged ctx (fun place => place.flag = name) (TransGen ctx.DependsOn name) (s.enter name)
      events (result, t))
    (hg : s.Grows u) (hlookups : u.lookups = t.lookups) (hu : u.cut = false)
    (hr : ∀ value, result' = .ok value →
      ∀ other, .walk other ∈ Event.walk name :: events → (u.memo.lookup other).isSome) :
    Logged ctx (fun _ => False) (ReflTransGen ctx.DependsOn name) s (.walk name :: events)
      (result', u) := by
  refine ⟨?_, ?_, ?_, ?_, hg, hu, hr⟩
  · refine List.nodup_cons.mpr ⟨fun hagain => ?_, h.nodup⟩
    exact hacyclic name (h.walks name hagain).1
  · intro other ho
    rcases List.mem_cons.mp ho with ho | ho
    · obtain rfl := Event.walk.inj ho
      exact ⟨.refl, hl⟩
    · obtain ⟨hbelow, hnone⟩ := h.walks other ho
      exact ⟨hbelow.to_reflTransGen, hnone⟩
  · intro place hplace
    rcases List.mem_cons.mp hplace with hplace | hplace
    · cases hplace
    · rcases h.asks place hplace with rfl | hwalk
      · exact .inr List.mem_cons_self
      · exact .inr (List.mem_cons_of_mem _ hwalk)
  · rw [List.filterMap_cons_none rfl, hlookups]
    exact h.lookups

lemma Progress.lookup_leave_remember {t : Progress} (ht : t.cut = false) (name other : String)
    (e : Evaluation) (cutBefore : Bool) :
    ((t.remember name e).leave name cutBefore).memo.lookup other =
      if other = name then some e else t.memo.lookup other := by
  have hmemo : ((t.remember name e).leave name cutBefore).memo = (name, e) :: t.memo := by
    rw [leave, remember, ht]
    rfl
  rw [hmemo, List.lookup_cons]
  by_cases ho : other = name
  · subst ho
    simp
  · rw [if_neg ho, beq_eq_false_iff_ne.mpr ho]

lemma logged_walk {name : String} {flag : FeatureFlag} {s : Progress} {depth : Nat}
    (hacyclic : ctx.Acyclic) (hp : name ∉ s.inProgress) (hl : s.memo.lookup name = none)
    (hf : ctx.flag? name = some flag) (hc : s.cut = false)
    (hbody : Logged ctx (fun place => place.flag = name) (TransGen ctx.DependsOn name) (s.enter name)
      ((flag.inquiry ctx).log ctx (ctx.evaluateDependency depth) .events (ctx.eventsByName depth)
        (s.enter name))
      (((flag.inquiry ctx).run ctx (ctx.evaluateDependency depth)).runFrom (s.enter name))) :
    Logged ctx (fun _ => False) (ReflTransGen ctx.DependsOn name) s
      (ctx.eventsByName (depth + 1) name s) ((ctx.evaluateByName (depth + 1) name).runFrom s) := by
  have hevents : ctx.eventsByName (depth + 1) name s =
      .walk name :: (flag.inquiry ctx).log ctx (ctx.evaluateDependency depth) .events
        (ctx.eventsByName depth) (s.enter name) := EvaluationContext.log_of_some hp hl hf
  rw [hevents, runFrom_evaluateByName_of_some hl hf]
  rcases hrun : ((flag.inquiry ctx).run ctx (ctx.evaluateDependency depth)).runFrom (s.enter name)
    with ⟨e | e, t⟩
  · rw [hrun] at hbody
    have hgrows : s.Grows (t.leave name s.cut) := by
      refine ⟨t.inProgress_leave hbody.grows.inProgress s.cut, hbody.grows.memo, fun h => ?_⟩
      rw [hc] at h
      cases h
    have huncut : (t.leave name s.cut).cut = false := by
      rw [Progress.leave, hc, hbody.uncut]
      rfl
    exact hbody.walk hacyclic hl hgrows rfl huncut fun _ hv => by cases hv
  · rw [hrun] at hbody
    have hlookup (other : String) := t.lookup_leave_remember hbody.uncut name other e s.cut
    have hgrows : s.Grows ((t.remember name e).leave name s.cut) := by
      refine ⟨(t.remember name e).inProgress_leave hbody.grows.inProgress s.cut, ?_, fun h => ?_⟩
      · intro other v hv
        have hne : other ≠ name := by
          rintro rfl
          rw [hl] at hv
          cases hv
        rw [hlookup, if_neg hne]
        exact hbody.grows.memo other v hv
      · rw [hc] at h
        cases h
    have huncut : ((t.remember name e).leave name s.cut).cut = false := by
      have ht : t.cut = false := hbody.uncut
      rw [Progress.leave, Progress.remember, hc, ht]
      rfl
    apply hbody.walk hacyclic hl hgrows rfl huncut
    intro _ _ other ho
    rw [hlookup]
    split
    · rfl
    · rename_i hne
      rcases List.mem_cons.mp ho with ho | ho
      · exact absurd (Event.walk.inj ho) hne
      · exact hbody.remembered e rfl other ho

lemma logged_tooDeep {name : String} {flag : FeatureFlag} {s : Progress} {below : String → Prop}
    {own : MatcherPlace → Prop} (hl : s.memo.lookup name = none) (hf : ctx.flag? name = some flag)
    (hc : s.cut = false) :
    Logged ctx own below s (ctx.eventsByName 0 name s) ((ctx.evaluateByName 0 name).runFrom s) := by
  unfold EvaluationContext.evaluateByName
  rw [EvaluationContext.eventsByName, EvaluationContext.log_zero, hf, EvaluationM.runFrom_remembering_of_error hl (EvaluationM.runFrom_throw _ _)]
  have hgrows : s.Grows { s with cut := s.cut || false } :=
    ⟨rfl, fun _ _ h => h, fun h => by rw [h]; rfl⟩
  exact .of_no_events hgrows rfl (by rw [hc]; rfl) _

lemma logged_evaluateByName (hacyclic : ctx.Acyclic) (depth : Nat) {name : String} {s : Progress}
    (habove : Above ctx s name) (hc : s.cut = false) :
    Logged ctx (fun _ => False) (ReflTransGen ctx.DependsOn name) s
      (ctx.eventsByName depth name s) ((ctx.evaluateByName depth name).runFrom s) := by
  -- Flags above `name` cannot be asked for below it, so no dependency is cut on the way.
  induction depth generalizing name s with
  | zero =>
    cases hl : s.memo.lookup name with
    | some known => exact logged_remembered hl hc 0
    | none =>
      cases hf : ctx.flag? name with
      | none => exact logged_notFound hf hc 0
      | some flag => exact logged_tooDeep hl hf hc
  | succ depth ih =>
    cases hl : s.memo.lookup name with
    | some known => exact logged_remembered hl hc (depth + 1)
    | none =>
      cases hf : ctx.flag? name with
      | none => exact logged_notFound hf hc (depth + 1)
      | some flag =>
        have hfresh : name ∉ s.inProgress := fun hp => hacyclic name (habove name hp)
        apply logged_walk hacyclic hfresh hl hf hc
        obtain rfl := EvaluationContext.name_of_flag? hf
        have hwithin : (flag.inquiry ctx).Within (· ∈ flag.dependencies) (· ∈ flag.segments) :=
          FeatureFlag.within_inquiry ctx (fun _ h => h) fun _ h => h
        refine logged_inquiry (FeatureFlag.asks_inquiry hf) hwithin (fun other ho t ht hct => ?_)
          (fun place hplace => hplace ▸ hacyclic _) rfl rfl
        have hdepends : ctx.DependsOn flag.name other := ⟨flag, hf, ho⟩
        have habove' : Above ctx t other := by
          intro p hp
          rw [ht] at hp
          rcases List.mem_cons.mp hp with rfl | hp
          · exact .single hdepends
          · exact (habove p hp).tail hdepends
        have hfresh' : other ∉ t.inProgress := fun hp => hacyclic other (habove' other hp)
        rw [EvaluationContext.evaluateDependency,
          EvaluationM.runFrom_unlessInProgress_of_notMem hfresh']
        exact ((ih habove' hct).mono (fun _ h => h) fun _ h => .head' hdepends h).map some

section Places

def EvaluationContext.entries (ctx : EvaluationContext) : List (String × FeatureFlag) :=
  match ctx.configuration with
  | none => []
  | some configuration => configuration.flags.entries

def EvaluationContext.segmentMatchers (ctx : EvaluationContext) : List Matcher :=
  ctx.entries.flatMap fun entry => entry.2.matchers.filter fun m => m.kind.segment?.isSome

def Condition.segmentPlaces (flag : String) (condition : Nat) (c : Condition) : List MatcherPlace :=
  (c.matchers.zipIdx.filter fun m => m.1.kind.segment?.isSome).map fun m => ⟨flag, condition, m.2⟩

def EvaluationContext.segmentPlaces (ctx : EvaluationContext) : List MatcherPlace :=
  ctx.entries.flatMap fun entry =>
    entry.2.conditions.zipIdx.flatMap fun c => c.1.segmentPlaces entry.1 c.2

lemma length_flatMap_zipIdx {l : List α} {f : α × Nat → List β} {g : α → Nat}
    (h : ∀ x i, (f (x, i)).length = g x) : (l.zipIdx.flatMap f).length = (l.map g).sum := by
  have hmap : (l.zipIdx.map fun x => (f x).length) = (l.zipIdx.map Prod.fst).map g := by
    rw [List.map_map]
    exact List.map_congr_left fun x _ => h x.1 x.2
  rw [List.length_flatMap, hmap, List.zipIdx_map_fst]

lemma Condition.length_segmentPlaces (flag : String) (condition : Nat) (c : Condition) :
    (c.segmentPlaces flag condition).length =
      (c.matchers.filter fun m => m.kind.segment?.isSome).length := by
  conv_rhs => rw [← List.zipIdx_map_fst 0 c.matchers, List.filter_map, List.length_map]
  rw [Condition.segmentPlaces, List.length_map]
  rfl

lemma length_segmentPlaces (ctx : EvaluationContext) :
    ctx.segmentPlaces.length = ctx.segmentMatchers.length := by
  rw [EvaluationContext.segmentPlaces, EvaluationContext.segmentMatchers, List.length_flatMap,
    List.length_flatMap]
  congr 2
  funext entry
  rw [length_flatMap_zipIdx fun c i => c.length_segmentPlaces entry.1 i, FeatureFlag.matchers,
    List.filter_flatMap, List.length_flatMap]

lemma mem_segmentPlaces {place : MatcherPlace} {m : Matcher} (h : ctx.matcherAt? place = some m)
    (hm : m.kind.segment?.isSome) : place ∈ ctx.segmentPlaces := by
  obtain ⟨flag, hf, hconditions⟩ := Option.bind_eq_some_iff.mp h
  obtain ⟨c, hc, hmatchers⟩ := Option.bind_eq_some_iff.mp hconditions
  have hentry : (place.flag, flag) ∈ ctx.entries := by
    obtain ⟨configuration, hconf, hfind⟩ := Option.bind_eq_some_iff.mp hf
    rw [EvaluationContext.entries, hconf]
    exact Dictionary.mem_of_find?_eq_some hfind
  have hcondition : (c, place.condition) ∈ flag.conditions.zipIdx :=
    List.mem_zipIdx_iff_getElem?.mpr hc
  have hmatcher : (m, place.matcher) ∈ c.matchers.zipIdx :=
    List.mem_zipIdx_iff_getElem?.mpr hmatchers
  refine List.mem_flatMap.mpr ⟨_, hentry, List.mem_flatMap.mpr ⟨_, hcondition, ?_⟩⟩
  exact List.mem_map.mpr ⟨_, List.mem_filter.mpr ⟨hmatcher, hm⟩, rfl⟩

end Places

lemma Matcher.isSome_segment? {m : Matcher} {question : String × String}
    (h : m.lookup? ctx = some question) : m.kind.segment?.isSome := by
  rw [Matcher.lookup?] at h
  cases hs : m.kind.segment? with
  | none =>
    rw [hs] at h
    cases h
  | some segment => rfl

/-- The events of a call are all different, and its lookups are those of the matchers that ask, one
for each. -/
structure EachOnce (ctx : EvaluationContext) (events : List Event)
    (lookups : List (String × String)) : Prop where
  nodup : events.Nodup
  asked : lookups.map some = (events.filterMap Event.place?).map ctx.lookupAt?
  length_le : lookups.length ≤ ctx.segmentMatchers.length

lemma place?_eq_some {event : Event} {place : MatcherPlace} (h : event.place? = some place) :
    event = .ask place := by
  cases event with
  | walk flag => cases h
  | ask place' =>
    cases h
    rfl

lemma eachOnce_of_logged {own : MatcherPlace → Prop} {below : String → Prop} {events : List Event}
    {outcome : Except EvaluationError α × Progress}
    (h : Logged ctx own below .start events outcome) :
    EachOnce ctx events outcome.2.lookups.reverse := by
  have hasked : outcome.2.lookups.reverse.map some =
      (events.filterMap Event.place?).map ctx.lookupAt? := by
    simpa [Progress.start] using h.lookups
  have hnodup : (events.filterMap Event.place?).Nodup := by
    apply List.Nodup.filterMap _ h.nodup
    intro event event' place hp hp'
    rw [place?_eq_some hp, place?_eq_some hp']
  have hplaces : events.filterMap Event.place? ⊆ ctx.segmentPlaces := by
    intro place hp
    have hl : ctx.lookupAt? place ∈ outcome.2.lookups.reverse.map some := by
      rw [hasked]
      exact List.mem_map_of_mem hp
    obtain ⟨question, -, hq⟩ := List.mem_map.mp hl
    obtain ⟨m, hm, hlookup⟩ := Option.bind_eq_some_iff.mp hq.symm
    exact mem_segmentPlaces hm (Matcher.isSome_segment? hlookup)
  refine ⟨h.nodup, hasked, ?_⟩
  calc outcome.2.lookups.reverse.length
      = (events.filterMap Event.place?).length := by
        simpa only [List.length_map] using congrArg List.length hasked
    _ ≤ ctx.segmentPlaces.length := (List.subperm_of_subset hnodup hplaces).length_le
    _ = ctx.segmentMatchers.length := length_segmentPlaces ctx

lemma logged_evaluateEach (hacyclic : ctx.Acyclic) (names : List String) {s : Progress}
    (hp : s.inProgress = []) (hc : s.cut = false) :
    Logged ctx (fun _ => False) (fun _ => True) s (ctx.eventsOfEach names s)
      ((Evaluator.evaluateEach ctx names).runFrom s) := by
  induction names generalizing s with
  | nil => exact .of_no_events (.refl s) rfl hc _
  | cons name rest ih =>
    have habove : Above ctx s name := by
      intro p hmem
      rw [hp] at hmem
      cases hmem
    have hfirst := (logged_evaluateByName hacyclic ctx.depthLimit habove hc).mono
      (fun _ h => h) (fun _ _ => trivial : ∀ _, _ → True)
    rw [Evaluator.evaluateEach]
    apply hfirst.bind
    · intro evaluation t ht hct
      rw [← map_eq_pure_bind, EvaluationM.runFrom_map]
      exact (ih (ht.trans hp) hct).map _
    · exact fun _ h => h.elim
    · exact fun _ h => h
    · exact fun _ h => h.elim

/-- A shared dependency is evaluated once, in a call for one flag and in a call for many. -/
theorem Evaluator.each_once {e : Evaluator} {key : String} {bucketingKey : Option String}
    {attributes : Attributes} (h : (e.context key bucketingKey attributes).Acyclic) :
    let ctx := e.context key bucketingKey attributes
    (∀ name, EachOnce ctx (ctx.eventsByName ctx.depthLimit name .start)
      (e.evaluate name key bucketingKey attributes).lookups) ∧
    ∀ names, EachOnce ctx (ctx.eventsOfEach names .start)
      (e.evaluateMany names key bucketingKey attributes).lookups := by
  intro ctx
  refine ⟨fun name => ?_, fun names => ?_⟩
  · have habove : Above ctx .start name := by
      intro p hmem
      cases hmem
    exact eachOnce_of_logged (logged_evaluateByName h ctx.depthLimit habove rfl)
  · have hmap := (logged_evaluateEach h names (s := .start) rfl rfl).map
      (Dictionary.ofList : List (String × Evaluation) → Dictionary String Evaluation)
    rw [← EvaluationM.runFrom_map] at hmap
    exact eachOnce_of_logged hmap

def diamond : Evaluator where
  configuration := some (.ofFlags [
    .guarded "home" [.onFlag "checkout", .onFlag "search"],
    .guarded "checkout" [.onFlag "beta"],
    .guarded "search" [.onFlag "beta"],
    .guarded "beta" [⟨.inSegment "staff", false, none⟩]])
  segments := some fun _ _ => true

lemma diamond_acyclic : (diamond.context "user-1" none .empty).Acyclic := by
  let rank := fun name => if name = "home" then 2 else if name = "beta" then 0 else 1
  refine EvaluationContext.acyclic_of_lt rank ?_
  rintro name other ⟨flag, hf, hd⟩
  have hn : name ∈ ["home", "checkout", "search", "beta"] := EvaluationContext.mem_names hf
  simp only [List.mem_cons, List.not_mem_nil, or_false] at hn
  rcases hn with rfl | rfl | rfl | rfl
  · obtain rfl := Option.some.inj hf
    have ho : other = "checkout" ∨ other = "search" := by
      simpa [FeatureFlag.dependencies, Matcher.onFlag, MatcherKind.dependency?] using hd
    rcases ho with rfl | rfl
    · decide
    · decide
  · obtain rfl := Option.some.inj hf
    obtain rfl : other = "beta" := by
      simpa [FeatureFlag.dependencies, Matcher.onFlag, MatcherKind.dependency?] using hd
    decide
  · obtain rfl := Option.some.inj hf
    obtain rfl : other = "beta" := by
      simpa [FeatureFlag.dependencies, Matcher.onFlag, MatcherKind.dependency?] using hd
    decide
  · obtain rfl := Option.some.inj hf
    simp [FeatureFlag.dependencies, MatcherKind.dependency?] at hd

theorem each_once_diamond :
    let ctx := diamond.context "user-1" none .empty
    let names := ["home", "beta", "home"]
    let outcome := diamond.evaluateMany names "user-1" none .empty
    ctx.Acyclic ∧ EachOnce ctx (ctx.eventsOfEach names .start) outcome.lookups ∧
      ctx.eventsOfEach names .start =
        [.walk "home", .walk "checkout", .walk "beta", .ask ⟨"beta", 0, 0⟩, .walk "search"] ∧
      outcome.lookups = [("staff", "user-1")] := by
  intro ctx names outcome
  have honce : EachOnce ctx (ctx.eventsOfEach names .start) outcome.lookups :=
    (Evaluator.each_once diamond_acyclic).2 names
  exact ⟨diamond_acyclic, honce, by decide +kernel, by decide +kernel⟩

end Rollout
