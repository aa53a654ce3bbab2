namespace Rollout

def distinct : List String → List String
  | [] => []
  | s :: rest => s :: (distinct rest).filter fun t => t ≠ s

theorem nodup_distinct (items : List String) : (distinct items).Nodup := by
  induction items with
  | nil => exact List.nodup_nil
  | cons s rest ih =>
    rw [distinct, List.nodup_cons]
    exact ⟨by simp, ih.filter _⟩

theorem mem_distinct {s : String} {items : List String} : s ∈ distinct items ↔ s ∈ items := by
  induction items with
  | nil => simp [distinct]
  | cons t rest ih =>
    rw [distinct]
    by_cases h : s = t <;> simp [h, ih]

structure StringSet where
  items : List String
  nodup : items.Nodup
  deriving Repr

namespace StringSet

def empty : StringSet := ⟨[], List.nodup_nil⟩

def ofList (items : List String) : StringSet := ⟨distinct items, nodup_distinct items⟩

def contains (set : StringSet) (s : String) : Bool := set.items.contains s

def size (set : StringSet) : Nat := set.items.length

def isEmpty (set : StringSet) : Bool := set.items.isEmpty

def insert (set : StringSet) (s : String) : StringSet :=
  if h : s ∈ set.items then set
  else ⟨set.items ++ [s], by
    rw [List.nodup_append]
    refine ⟨set.nodup, by simp, ?_⟩
    intro a ha b hb hab
    rw [List.mem_singleton] at hb
    exact h (hb ▸ hab ▸ ha)⟩

def all (set : StringSet) (p : String → Bool) : Bool := set.items.all p

def any (set : StringSet) (p : String → Bool) : Bool := set.items.any p

theorem contains_ofList (items : List String) (s : String) :
    (ofList items).contains s = true ↔ s ∈ items := by
  simp [ofList, contains, mem_distinct]

theorem contains_insert (set : StringSet) (s t : String) :
    (set.insert s).contains t = true ↔ t = s ∨ set.contains t = true := by
  rw [insert]
  split
  · rename_i h
    have hs : t = s → set.contains t = true := fun heq => by simpa [contains, heq] using h
    exact ⟨Or.inr, fun ht => ht.elim hs id⟩
  · simp [contains, or_comm]

end StringSet

end Rollout
