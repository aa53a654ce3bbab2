import Mathlib.Data.List.Forall2
import Mathlib.Data.Option.Basic

namespace Rollout

variable {ι α : Type} {f : ι → Option α} {items : List ι}

lemma isSome_mapM_iff : (items.mapM f).isSome ↔ ∀ item ∈ items, (f item).isSome := by
  induction items with
  | nil => simp
  | cons item rest ih =>
    rw [List.mapM_cons, List.forall_mem_cons, ← ih]
    cases f item <;> cases rest.mapM f <;> simp

lemma mapM_eq_none {item : ι} (hi : item ∈ items) (hf : f item = none) : items.mapM f = none := by
  rw [← Option.not_isSome_iff_eq_none, isSome_mapM_iff]
  intro h
  simpa [hf] using h item hi

lemma forall₂_of_mapM {values : List α} (h : items.mapM f = some values) :
    List.Forall₂ (fun item value => f item = some value) items values := by
  induction items generalizing values with
  | nil =>
    cases h
    exact .nil
  | cons item rest ih =>
    simp only [List.mapM_cons, Option.bind_eq_bind, Option.bind_eq_some_iff] at h
    obtain ⟨value, hv, others, ho, hvalues⟩ := h
    cases hvalues
    exact .cons hv (ih ho)

lemma exists_mem_of_mapM {values : List α} (h : items.mapM f = some values) {item : ι}
    (hi : item ∈ items) : ∃ value ∈ values, f item = some value := by
  have hall := forall₂_of_mapM h
  clear h
  induction hall with
  | nil => cases hi
  | cons hv _ ih =>
    rcases List.mem_cons.mp hi with rfl | hi
    · exact ⟨_, List.mem_cons_self, hv⟩
    · obtain ⟨value, hm, he⟩ := ih hi
      exact ⟨value, List.mem_cons_of_mem _ hm, he⟩

lemma mapM_eq_of_forall₂ {items' : List ι} (h : List.Forall₂ (fun x y => f y = f x) items items') :
    items'.mapM f = items.mapM f := by
  induction h with
  | nil => rfl
  | cons hxy _ ih => rw [List.mapM_cons, List.mapM_cons, hxy, ih]

end Rollout
