import Rollout.Proofs.Evaluation.Unmemoized

namespace Rollout

section Traversal

variable {κ α ε : Type} {f : κ → Except ε α}

lemma mapM_pair_of_ok {keys : List κ} (h : ∀ key ∈ keys, ∃ value, f key = .ok value) :
    ∃ entries : List (κ × α), keys.mapM (fun key => (f key).map (key, ·)) = .ok entries ∧
      entries.map Prod.fst = keys ∧ ∀ entry ∈ entries, f entry.1 = .ok entry.2 := by
  induction keys with
  | nil => exact ⟨[], rfl, rfl, by simp⟩
  | cons key rest ih =>
    obtain ⟨⟨value, hv⟩, hr⟩ := List.forall_mem_cons.mp h
    obtain ⟨entries, he, hk, hf⟩ := ih hr
    refine ⟨(key, value) :: entries, ?_, by rw [List.map_cons, hk],
      List.forall_mem_cons.mpr ⟨hv, hf⟩⟩
    rw [List.mapM_cons, hv, he]
    rfl

lemma mapM_pair_of_error {before after : List κ} {key : κ} {e : ε}
    (h : ∀ other ∈ before, ∃ value, f other = .ok value) (he : f key = .error e) :
    (before ++ key :: after).mapM (fun key => (f key).map (key, ·)) = .error e := by
  induction before with
  | nil =>
    rw [List.nil_append, List.mapM_cons, he]
    rfl
  | cons other rest ih =>
    obtain ⟨⟨value, hv⟩, hr⟩ := List.forall_mem_cons.mp h
    rw [List.cons_append, List.mapM_cons, hv, ih hr]
    rfl

lemma forall_ok_or_exists_error (f : κ → Except ε α) (keys : List κ) :
    (∀ key ∈ keys, ∃ value, f key = .ok value) ∨
      ∃ before key after e, keys = before ++ key :: after ∧
        (∀ other ∈ before, ∃ value, f other = .ok value) ∧ f key = .error e := by
  induction keys with
  | nil => exact Or.inl (by simp)
  | cons key rest ih =>
    rcases hf : f key with e | value
    · exact Or.inr ⟨[], key, rest, e, rfl, by simp, hf⟩
    · rcases ih with h | ⟨before, other, after, e, rfl, hb, he⟩
      · exact Or.inl (List.forall_mem_cons.mpr ⟨⟨value, hf⟩, h⟩)
      · exact Or.inr ⟨key :: before, other, after, e, rfl,
          List.forall_mem_cons.mpr ⟨⟨value, hf⟩, hb⟩, he⟩

end Traversal

lemma agrees_evaluateEach {ctx : EvaluationContext} (names : List String) {s : Progress}
    (hs : s.Sound ctx) (hp : s.inProgress = []) :
    Agrees ctx s ((Evaluator.evaluateEach ctx names).runFrom s)
      (names.mapM fun name => (ctx.evaluateOnPath [] name List.not_mem_nil).map (name, ·))
      fun _ _ => True := by
  induction names generalizing s with
  | nil => exact .ok hs (.refl s) fun _ => trivial
  | cons name rest ih =>
    have hsplit : ((name :: rest).mapM fun name =>
        (ctx.evaluateOnPath [] name List.not_mem_nil).map (name, ·)) =
        ctx.evaluateOnPath [] name List.not_mem_nil >>= fun evaluation =>
          (rest.mapM fun name => (ctx.evaluateOnPath [] name List.not_mem_nil).map (name, ·)) >>=
            fun others => .ok ((name, evaluation) :: others) := by
      rw [List.mapM_cons]
      cases ctx.evaluateOnPath [] name List.not_mem_nil <;> rfl
    rw [hsplit, Evaluator.evaluateEach]
    have hn : Agrees ctx s ((ctx.evaluateByName ctx.depthLimit name).runFrom s)
        (ctx.evaluateOnPath [] name List.not_mem_nil) fun memo e => memo.lookup name = some e := by
      have fresh : name ∉ s.inProgress := by simp [hp]
      have h := agrees_evaluateByName hs fresh (ctx.unvisited_le _)
      simpa only [hp] using h
    refine hn.bind fun evaluation t ht hg _ => ?_
    refine (ih ht (hg.inProgress.trans hp)).bind fun others u hu _ _ => ?_
    exact .ok hu (.refl u) fun _ => trivial

namespace Evaluator

variable (e : Evaluator) (key : String) (bucketingKey : Option String) (attributes : Attributes)

lemma result_evaluateMany (names : List String) :
    (e.evaluateMany names key bucketingKey attributes).result =
      (names.mapM fun name =>
        ((e.evaluate name key bucketingKey attributes).result.map (name, ·))).map
          Dictionary.ofList := by
  simp only [result_evaluate]
  rw [evaluateMany, EvaluationM.result_outcome, EvaluationM.runFrom_map]
  rw [(agrees_evaluateEach names (.start _) rfl).result]

variable {e key bucketingKey attributes}

lemma evaluateMany_of_ok {names : List String}
    (h : ∀ name ∈ names, ∃ v, (e.evaluate name key bucketingKey attributes).result = .ok v) :
    ∃ d, (e.evaluateMany names key bucketingKey attributes).result = .ok d ∧
      ∀ name v, d.find? name = some v ↔
        name ∈ names ∧ (e.evaluate name key bucketingKey attributes).result = .ok v := by
  obtain ⟨entries, he, rfl, hv⟩ := mapM_pair_of_ok h
  refine ⟨.ofList entries, by rw [result_evaluateMany, he]; rfl, fun name v => ?_⟩
  have hsound : ∀ v, (Dictionary.ofList entries).find? name = some v →
      (e.evaluate name key bucketingKey attributes).result = .ok v := fun v hf =>
    hv (name, v) (mem_of_mem_lastWins (Dictionary.mem_of_find?_eq_some hf))
  constructor
  · intro hf
    exact ⟨Dictionary.mem_keys_ofList.mp (Dictionary.mem_keys.mpr (by simp [hf])), hsound v hf⟩
  · rintro ⟨hn, hr⟩
    obtain ⟨w, hw⟩ := Option.isSome_iff_exists.mp
      (Dictionary.mem_keys.mp (Dictionary.mem_keys_ofList.mpr hn))
    rw [hw, Except.ok.inj ((hsound w hw).symm.trans hr)]

lemma evaluateMany_of_error {before after : List String} {name : String} {err : EvaluationError}
    (h : ∀ other ∈ before, ∃ v, (e.evaluate other key bucketingKey attributes).result = .ok v)
    (he : (e.evaluate name key bucketingKey attributes).result = .error err) :
    (e.evaluateMany (before ++ name :: after) key bucketingKey attributes).result =
      .error err := by
  rw [result_evaluateMany, mapM_pair_of_error h he]
  rfl

lemma ok_of_evaluateMany {names : List String} {d : Dictionary String Evaluation}
    (h : (e.evaluateMany names key bucketingKey attributes).result = .ok d) :
    ∀ name ∈ names, ∃ v, (e.evaluate name key bucketingKey attributes).result = .ok v := by
  rcases forall_ok_or_exists_error
    (fun name => (e.evaluate name key bucketingKey attributes).result) names with
    hok | ⟨before, name, after, err, rfl, hb, he⟩
  · exact hok
  · rw [evaluateMany_of_error hb he] at h
    cases h

variable (e key bucketingKey attributes)

/-- All names are given their own evaluations, or the first failure among them is the answer; the
order of the names is of no importance. -/
theorem evaluateMany_eq_evaluate (names : List String) :
    let alone := fun name => (e.evaluate name key bucketingKey attributes).result
    let together := fun names => (e.evaluateMany names key bucketingKey attributes).result
    ((∀ name ∈ names, ∃ v, alone name = .ok v) →
      ∃ d, together names = .ok d ∧ (∀ name, name ∈ d.keys ↔ name ∈ names) ∧
        ∀ name ∈ names, ∃ v, d.find? name = some v ∧ alone name = .ok v) ∧
    (∀ before name after err, names = before ++ name :: after →
      (∀ other ∈ before, ∃ v, alone other = .ok v) → alone name = .error err →
      together names = .error err) ∧
    ∀ others d, (∀ name, name ∈ others ↔ name ∈ names) → together names = .ok d →
      ∃ d', together others = .ok d' ∧ ∀ name, d'.find? name = d.find? name := by
  intro alone together
  refine ⟨fun h => ?_, ?_, fun others d hm hd => ?_⟩
  · obtain ⟨d, hd, hf⟩ := evaluateMany_of_ok h
    refine ⟨d, hd, fun name => ?_, fun name hn => ?_⟩
    · rw [Dictionary.mem_keys, Option.isSome_iff_exists]
      constructor
      · rintro ⟨v, hv⟩
        exact ((hf name v).mp hv).1
      · intro hn
        obtain ⟨v, hv⟩ := h name hn
        exact ⟨v, (hf name v).mpr ⟨hn, hv⟩⟩
    · obtain ⟨v, hv⟩ := h name hn
      exact ⟨v, (hf name v).mpr ⟨hn, hv⟩, hv⟩
  · rintro before name after err rfl hb he
    exact evaluateMany_of_error hb he
  · have h := ok_of_evaluateMany hd
    obtain ⟨c, hc, hf⟩ := evaluateMany_of_ok h
    obtain ⟨d', hd', hf'⟩ := evaluateMany_of_ok fun name hn => h name ((hm name).mp hn)
    obtain rfl : c = d := Except.ok.inj (hc.symm.trans hd)
    refine ⟨d', hd', fun name => Option.ext fun v => ?_⟩
    rw [hf', hf, hm]

end Evaluator

end Rollout
