import Mathlib.Data.List.DropRight
import Mathlib.Tactic.Common
import Rollout.Text.Blank

namespace Rollout.Text

variable {s t : List Char}

/-- The code points with the Unicode property White_Space. -/
def whiteSpace : List Nat :=
  [0x09, 0x0A, 0x0B, 0x0C, 0x0D, 0x20, 0x85, 0xA0, 0x1680, 0x2000, 0x2001, 0x2002, 0x2003, 0x2004,
    0x2005, 0x2006, 0x2007, 0x2008, 0x2009, 0x200A, 0x2028, 0x2029, 0x202F, 0x205F, 0x3000]

lemma isBlank_iff {c : Char} : isBlank c = true ↔ c.toNat ∈ whiteSpace := by
  simp only [isBlank, whiteSpace, Bool.or_eq_true, Bool.and_eq_true, decide_eq_true_eq, beq_iff_eq,
    List.mem_cons, List.not_mem_nil, or_false]
  omega

structure Trimmed (s t : List Char) : Prop where
  around : ∃ before after, s = before ++ t ++ after ∧ (∀ c ∈ before, c.toNat ∈ whiteSpace) ∧
    ∀ c ∈ after, c.toNat ∈ whiteSpace
  head : ∀ c ∈ t.head?, c.toNat ∉ whiteSpace
  last : ∀ c ∈ t.getLast?, c.toNat ∉ whiteSpace

lemma trim_eq_rdropWhile (s : List Char) : trim s = (s.dropWhile isBlank).rdropWhile isBlank := rfl

lemma rdropWhile_append (h : ∀ c ∈ t, isBlank c) :
    (s ++ t).rdropWhile isBlank = s.rdropWhile isBlank := by
  rw [List.rdropWhile, List.rdropWhile, List.reverse_append, List.dropWhile_append_of_pos]
  simpa using h

lemma rdropWhile_eq_self (h : ∀ c ∈ t.getLast?, ¬ isBlank c) : t.rdropWhile isBlank = t :=
  List.rdropWhile_eq_self_iff.mpr fun hne => h _ (List.getLast?_eq_some_getLast hne)

lemma Trimmed.trim_eq (h : Trimmed s t) : trim s = t := by
  obtain ⟨⟨before, after, rfl, hbefore, hafter⟩, hhead, hlast⟩ := h
  simp only [← isBlank_iff] at hbefore hafter hhead hlast
  rw [trim_eq_rdropWhile, List.append_assoc, List.dropWhile_append_of_pos hbefore]
  cases t with
  | nil => rw [List.nil_append, List.dropWhile_eq_nil_iff.mpr hafter, List.rdropWhile_nil]
  | cons c t =>
    rw [List.cons_append, List.dropWhile_cons_of_neg (hhead c rfl), ← List.cons_append,
      rdropWhile_append hafter, rdropWhile_eq_self hlast]

lemma trimmed_trim (s : List Char) : Trimmed s (trim s) := by
  rw [trim_eq_rdropWhile]
  have hrest := List.rdropWhile_append_rtakeWhile (p := isBlank) (l := s.dropWhile isBlank)
  refine ⟨⟨s.takeWhile isBlank, (s.dropWhile isBlank).rtakeWhile isBlank, ?_,
    fun c hc => isBlank_iff.mp (List.mem_takeWhile_imp hc),
    fun c hc => isBlank_iff.mp (List.mem_rtakeWhile_imp hc)⟩, fun c hc => ?_, fun c hc => ?_⟩
  · rw [List.append_assoc, hrest, List.takeWhile_append_dropWhile]
  · have hhead := List.head?_dropWhile_not isBlank s
    rw [← hrest, List.head?_append, Option.mem_def.mp hc] at hhead
    rw [← isBlank_iff]
    simpa using hhead
  · rw [← isBlank_iff]
    obtain ⟨hne, rfl⟩ := List.mem_getLast?_eq_getLast hc
    exact List.rdropWhile_last_not isBlank _ hne

theorem trim_eq_iff : trim s = t ↔ Trimmed s t :=
  ⟨fun h => h ▸ trimmed_trim s, Trimmed.trim_eq⟩

lemma trim_eq_self_iff :
    trim t = t ↔ (∀ c ∈ t.head?, ¬ isBlank c) ∧ ∀ c ∈ t.getLast?, ¬ isBlank c := by
  simp only [trim_eq_iff, isBlank_iff]
  exact ⟨fun h => ⟨h.head, h.last⟩, fun h => ⟨⟨[], [], by simp⟩, h.1, h.2⟩⟩

end Rollout.Text
