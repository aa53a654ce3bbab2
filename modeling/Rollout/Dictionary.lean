/-! Finite maps as lists of entries, in the order in which their keys first came. -/

namespace Rollout

def setEntry {κ α : Type} [DecidableEq κ] (key : κ) (value : α) : List (κ × α) → List (κ × α)
  | [] => [(key, value)]
  | entry :: rest =>
    if entry.1 = key then (key, value) :: rest else entry :: setEntry key value rest

def lastWins {κ α : Type} [DecidableEq κ] (entries : List (κ × α)) : List (κ × α) :=
  entries.foldl (fun kept entry => setEntry entry.1 entry.2 kept) []

theorem keys_setEntry {κ α : Type} [DecidableEq κ] (key : κ) (value : α) (entries : List (κ × α)) :
    (setEntry key value entries).map Prod.fst =
      if key ∈ entries.map Prod.fst then entries.map Prod.fst
      else entries.map Prod.fst ++ [key] := by
  induction entries with
  | nil => simp [setEntry]
  | cons entry rest ih =>
    rw [setEntry]
    split
    · rename_i h
      simp [h]
    · rename_i h
      simp only [List.map_cons, ih, List.mem_cons, Ne.symm h, false_or]
      split <;> simp

theorem nodup_setEntry {κ α : Type} [DecidableEq κ] (key : κ) (value : α)
    {entries : List (κ × α)} (h : (entries.map Prod.fst).Nodup) :
    ((setEntry key value entries).map Prod.fst).Nodup := by
  rw [keys_setEntry]
  split
  · exact h
  · rename_i hk
    rw [List.nodup_append]
    refine ⟨h, by simp, ?_⟩
    intro a ha b hb hab
    rw [List.mem_singleton] at hb
    exact hk (hb ▸ hab ▸ ha)

theorem nodup_foldl_setEntry {κ α : Type} [DecidableEq κ] (entries kept : List (κ × α))
    (h : (kept.map Prod.fst).Nodup) :
    ((entries.foldl (fun kept entry => setEntry entry.1 entry.2 kept) kept).map Prod.fst).Nodup := by
  induction entries generalizing kept with
  | nil => exact h
  | cons entry rest ih => exact ih _ (nodup_setEntry _ _ h)

theorem nodup_lastWins {κ α : Type} [DecidableEq κ] (entries : List (κ × α)) :
    ((lastWins entries).map Prod.fst).Nodup :=
  nodup_foldl_setEntry entries [] List.nodup_nil

theorem find?_setEntry {κ α : Type} [DecidableEq κ] (key other : κ) (value : α)
    (entries : List (κ × α)) :
    ((setEntry key value entries).find? fun entry => entry.1 = other).map Prod.snd =
      if key = other then some value
      else (entries.find? fun entry => entry.1 = other).map Prod.snd := by
  induction entries with
  | nil => by_cases h : key = other <;> simp [setEntry, h]
  | cons entry rest ih =>
    rw [setEntry]
    by_cases hk : entry.1 = key
    · rw [if_pos hk]
      by_cases h : key = other <;> simp [hk, h]
    · rw [if_neg hk]
      by_cases he : entry.1 = other
      · have h : key ≠ other := fun h => hk (he.trans h.symm)
        simp [he, h]
      · simpa [he] using ih

theorem find?_foldl_setEntry {κ α : Type} [DecidableEq κ] (key : κ) (entries kept : List (κ × α)) :
    ((entries.foldl (fun kept entry => setEntry entry.1 entry.2 kept) kept).find? fun entry =>
        entry.1 = key).map Prod.snd =
      ((entries.reverse.find? fun entry => entry.1 = key).map Prod.snd).or
        ((kept.find? fun entry => entry.1 = key).map Prod.snd) := by
  induction entries generalizing kept with
  | nil => simp
  | cons entry rest ih =>
    rw [List.foldl_cons, ih, find?_setEntry, List.reverse_cons, List.find?_append]
    cases rest.reverse.find? fun entry => entry.1 = key with
    | some found => simp
    | none => by_cases h : entry.1 = key <;> simp [h]

theorem mem_of_mem_setEntry {κ α : Type} [DecidableEq κ] {key : κ} {value : α} {e : κ × α}
    {entries : List (κ × α)} (h : e ∈ setEntry key value entries) :
    e = (key, value) ∨ e ∈ entries := by
  induction entries with
  | nil => exact Or.inl (List.mem_singleton.1 h)
  | cons entry rest ih =>
    rw [setEntry] at h
    split at h
    · rcases List.mem_cons.1 h with h | h
      · exact Or.inl h
      · exact Or.inr (List.mem_cons_of_mem _ h)
    · rcases List.mem_cons.1 h with h | h
      · exact Or.inr (h ▸ List.mem_cons_self)
      · exact (ih h).imp_right (List.mem_cons_of_mem _)

theorem mem_of_mem_foldl_setEntry {κ α : Type} [DecidableEq κ] {e : κ × α}
    {entries kept : List (κ × α)}
    (h : e ∈ entries.foldl (fun kept entry => setEntry entry.1 entry.2 kept) kept) :
    e ∈ entries ∨ e ∈ kept := by
  induction entries generalizing kept with
  | nil => exact Or.inr h
  | cons entry rest ih =>
    rcases ih h with h | h
    · exact Or.inl (List.mem_cons_of_mem _ h)
    · rcases mem_of_mem_setEntry h with h | h
      · exact Or.inl (h ▸ List.mem_cons_self)
      · exact Or.inr h

theorem mem_of_mem_lastWins {κ α : Type} [DecidableEq κ] {e : κ × α} {entries : List (κ × α)}
    (h : e ∈ lastWins entries) : e ∈ entries :=
  (mem_of_mem_foldl_setEntry h).resolve_right List.not_mem_nil

theorem find?_eq_some_iff_mem {κ α : Type} [DecidableEq κ] {key : κ} {value : α}
    {entries : List (κ × α)} (h : (entries.map Prod.fst).Nodup) :
    (entries.find? fun entry => entry.1 = key).map Prod.snd = some value ↔
      (key, value) ∈ entries := by
  induction entries with
  | nil => simp
  | cons entry rest ih =>
    obtain ⟨k, v⟩ := entry
    obtain ⟨hk, hr⟩ := List.nodup_cons.mp h
    by_cases heq : k = key
    · subst heq
      have hm : (k, value) ∉ rest := fun hm => hk (List.mem_map.mpr ⟨(k, value), hm, rfl⟩)
      simp [hm, eq_comm]
    · have hne : (key, value) ≠ (k, v) := fun h => heq (congrArg Prod.fst h).symm
      rw [List.find?_cons_of_neg (by simpa using heq), ih hr, List.mem_cons, or_iff_right hne]

structure Dictionary (κ α : Type) where
  entries : List (κ × α)
  nodup : (entries.map Prod.fst).Nodup
  deriving Repr

namespace Dictionary

variable {κ α : Type}

def empty : Dictionary κ α := ⟨[], List.nodup_nil⟩

instance : Inhabited (Dictionary κ α) := ⟨empty⟩

instance : EmptyCollection (Dictionary κ α) := ⟨empty⟩

def keys (d : Dictionary κ α) : List κ := d.entries.map Prod.fst

def values (d : Dictionary κ α) : List α := d.entries.map Prod.snd

def size (d : Dictionary κ α) : Nat := d.entries.length

variable [DecidableEq κ]

def insert (d : Dictionary κ α) (key : κ) (value : α) : Dictionary κ α :=
  ⟨setEntry key value d.entries, nodup_setEntry key value d.nodup⟩

def ofList (entries : List (κ × α)) : Dictionary κ α :=
  ⟨lastWins entries, nodup_lastWins entries⟩

def find? (d : Dictionary κ α) (key : κ) : Option α :=
  (d.entries.find? fun entry => entry.1 = key).map Prod.snd

def contains (d : Dictionary κ α) (key : κ) : Bool :=
  d.entries.any fun entry => entry.1 = key

theorem find?_insert (d : Dictionary κ α) (key other : κ) (value : α) :
    (d.insert key value).find? other = if key = other then some value else d.find? other :=
  find?_setEntry key other value d.entries

theorem find?_ofList (entries : List (κ × α)) (key : κ) :
    (ofList entries).find? key =
      (entries.reverse.find? fun entry => entry.1 = key).map Prod.snd := by
  simpa [find?, ofList, lastWins] using find?_foldl_setEntry key entries []

theorem mem_keys {d : Dictionary κ α} {key : κ} : key ∈ d.keys ↔ (d.find? key).isSome := by
  simp [keys, find?]

theorem mem_keys_ofList {entries : List (κ × α)} {key : κ} :
    key ∈ (ofList entries).keys ↔ key ∈ entries.map Prod.fst := by
  simp [mem_keys, find?_ofList]

theorem find?_eq_some_iff {d : Dictionary κ α} {key : κ} {value : α} :
    d.find? key = some value ↔ (key, value) ∈ d.entries :=
  find?_eq_some_iff_mem d.nodup

theorem mem_of_find?_eq_some {d : Dictionary κ α} {key : κ} {value : α}
    (h : d.find? key = some value) : (key, value) ∈ d.entries :=
  find?_eq_some_iff.mp h

@[ext] theorem ext {κ α : Type} {d e : Dictionary κ α} (h : d.entries = e.entries) : d = e := by
  cases d
  cases e
  cases h
  rfl

end Dictionary

end Rollout
