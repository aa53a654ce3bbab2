import Mathlib.Data.List.Basic
import Mathlib.Data.List.Induction
import Rollout.Proofs.Impression.BloomFilter
import Rollout.Proofs.Impression.FilterSize

/-! A filter contains the items all of whose positions are positions of items added since it was
last cleared. -/

namespace Rollout

inductive FilterCall
  | add (item : String)
  | clear

namespace BloomFilter

section Bits

variable {words : Array UInt64} {bits : List UInt64}

lemma setBit_comm (words : Array UInt64) (a b : UInt64) :
    setBit (setBit words a) b = setBit (setBit words b) a := by
  apply Array.ext_getElem?
  intro i
  simp only [setBit, Array.getElem?_modify]
  by_cases ha : wordIndex a = i <;> by_cases hb : wordIndex b = i <;> simp [ha, hb]
  cases words[i]? with
  | none => rfl
  | some word => simp [UInt64.or_assoc, UInt64.or_comm (mask a)]

lemma foldl_setBit_perm {as bs : List UInt64} (h : as.Perm bs) :
    as.foldl setBit words = bs.foldl setBit words :=
  h.foldl_eq' (fun a _ b _ words => setBit_comm words a b) words

lemma or_mask_eq_self {word bit : UInt64} (h : word &&& mask bit != 0) :
    word ||| mask bit = word := by
  rw [and_mask_ne_zero] at h
  rw [← UInt64.toNat_inj, UInt64.toNat_or, toNat_mask]
  apply Nat.eq_of_testBit_eq
  intro i
  rw [Nat.testBit_or, Nat.testBit_two_pow]
  by_cases hi : bit.toNat % 64 = i
  · rw [← hi, h, Bool.true_or]
  · rw [decide_eq_false hi, Bool.or_false]

lemma setBit_eq_self {bit : UInt64} (h : hasBit words bit = true) : setBit words bit = words := by
  apply Array.ext_getElem?
  intro i
  rw [setBit, Array.getElem?_modify]
  by_cases hi : wordIndex bit = i
  · rw [hasBit, hi] at h
    cases hw : words[i]? with
    | none => simp
    | some word =>
      rw [hw] at h
      simp [hi, or_mask_eq_self h]
  · rw [if_neg hi]

lemma foldl_setBit_eq_self (h : ∀ bit ∈ bits, hasBit words bit = true) :
    bits.foldl setBit words = words := by
  induction bits with
  | nil => rfl
  | cons bit rest ih =>
    obtain ⟨hb, hr⟩ := List.forall_mem_cons.mp h
    rw [List.foldl_cons, setBit_eq_self hb, ih hr]

end Bits

variable {f g : BloomFilter} {item other : String} {calls : List FilterCall}

lemma eq_of_words {words words' : Array UInt64} (h : words = words')
    (hs : words.size = wordsFor f.numBits) (hs' : words'.size = wordsFor f.numBits) :
    { f with words, size_words := hs } = { f with words := words', size_words := hs' } := by
  subst h
  rfl

lemma add_comm (f : BloomFilter) (item other : String) :
    (f.add item).add other = (f.add other).add item := by
  apply eq_of_words
  change (f.positions other).foldl setBit ((f.positions item).foldl setBit f.words) =
    (f.positions item).foldl setBit ((f.positions other).foldl setBit f.words)
  rw [← List.foldl_append, ← List.foldl_append]
  exact foldl_setBit_perm List.perm_append_comm

lemma add_eq_self (h : f.contains item = true) : f.add item = f := by
  rw [contains_eq_true_iff] at h
  exact eq_of_words (foldl_setBit_eq_self h) _ f.size_words

def call (f : BloomFilter) : FilterCall → BloomFilter
  | .add item => f.add item
  | .clear => f.clear

def after (f : BloomFilter) (calls : List FilterCall) : BloomFilter := calls.foldl call f

@[simp] lemma after_append (f : BloomFilter) (calls others : List FilterCall) :
    f.after (calls ++ others) = (f.after calls).after others :=
  List.foldl_append

@[simp] lemma after_add (f : BloomFilter) (item : String) : f.after [.add item] = f.add item := rfl

@[simp] lemma after_clear (f : BloomFilter) : f.after [.clear] = f.clear := rfl

lemma size_after (f : BloomFilter) (calls : List FilterCall) :
    (f.after calls).numBits = f.numBits ∧ (f.after calls).numHashes = f.numHashes := by
  induction calls generalizing f with
  | nil => exact ⟨rfl, rfl⟩
  | cons c rest ih =>
    obtain ⟨hb, hh⟩ := ih (f.call c)
    cases c with
    | add item => exact ⟨hb, hh⟩
    | clear => exact ⟨hb, hh⟩

lemma positions_eq (hb : f.numBits = g.numBits) (hh : f.numHashes = g.numHashes) (item : String) :
    f.positions item = g.positions item := by
  rw [positions, positions, hb, hh]

lemma positions_after (f : BloomFilter) (calls : List FilterCall) (item : String) :
    (f.after calls).positions item = f.positions item :=
  positions_eq (f.size_after calls).1 (f.size_after calls).2 item

def position (f : BloomFilter) (item : String) (i : Nat) : Nat :=
  let hash := Hash.murmur128 (Text.bytes item) 0
  (hash.low.toNat + i * hash.high.toNat) % 2 ^ 64 % f.numBits.toNat

lemma toNat_positions (f : BloomFilter) (item : String) :
    (f.positions item).map UInt64.toNat =
      (List.range f.numHashes.toNat).map fun i => f.position item (i + 1) := by
  rw [positions, List.map_map]
  apply List.map_congr_left
  intro i hi
  have hlt : i + 1 < 2 ^ 64 := by
    have hn := f.numHashes.toNat_lt
    have hi := List.mem_range.mp hi
    omega
  have hone : (i + 1).toUInt64.toNat = i + 1 := UInt64.toNat_ofNat_of_lt' hlt
  rw [Function.comp_apply, UInt64.toNat_mod, UInt64.toNat_add, UInt64.toNat_mul, hone,
    Nat.add_mod_mod]
  rfl

lemma mem_toNat_positions {n : Nat} : n ∈ (f.positions item).map UInt64.toNat ↔
    ∃ i, 1 ≤ i ∧ i ≤ f.numHashes.toNat ∧ f.position item i = n := by
  rw [toNat_positions, List.mem_map]
  constructor
  · rintro ⟨i, hi, rfl⟩
    exact ⟨i + 1, by omega, List.mem_range.mp hi, rfl⟩
  · rintro ⟨i, hpos, hle, rfl⟩
    obtain ⟨i, rfl⟩ := Nat.exists_eq_add_of_le' hpos
    exact ⟨i, List.mem_range.mpr hle, rfl⟩

/-- An item was added, and the filter was not cleared after that. -/
def AddedIn (calls : List FilterCall) (item : String) : Prop :=
  ∃ before later, calls = before ++ .add item :: later ∧ .clear ∉ later

lemma not_addedIn_nil : ¬ AddedIn [] item := by
  rintro ⟨before, later, h, -⟩
  simp at h

lemma addedIn_append_add :
    AddedIn (calls ++ [.add other]) item ↔ AddedIn calls item ∨ item = other := by
  constructor
  · rintro ⟨before, later, h, hclear⟩
    rcases List.eq_nil_or_concat' later with rfl | ⟨later, last, rfl⟩
    · right
      obtain ⟨-, hlast⟩ := List.append_inj' h rfl
      simpa using hlast.symm
    · left
      rw [← List.cons_append, ← List.append_assoc] at h
      obtain ⟨hcalls, -⟩ := List.append_inj' h rfl
      exact ⟨before, later, hcalls, fun hc => hclear (List.mem_append_left _ hc)⟩
  · rintro (⟨before, later, rfl, hclear⟩ | rfl)
    · exact ⟨before, later ++ [.add other], by simp, by simpa using hclear⟩
    · exact ⟨calls, [], rfl, by simp⟩

lemma not_addedIn_append_clear : ¬ AddedIn (calls ++ [.clear]) item := by
  rintro ⟨before, later, h, hclear⟩
  rcases List.eq_nil_or_concat' later with rfl | ⟨later, last, rfl⟩
  · obtain ⟨-, hlast⟩ := List.append_inj' h rfl
    simp at hlast
  · rw [← List.cons_append, ← List.append_assoc] at h
    obtain ⟨-, hlast⟩ := List.append_inj' h rfl
    apply hclear
    simp [← hlast]

lemma hasBit_after (h : f.words = noBits f.numBits) (calls : List FilterCall) (bit : UInt64) :
    hasBit (f.after calls).words bit = true ↔
      ∃ item, AddedIn calls item ∧ bit ∈ f.positions item := by
  -- By induction from the end, as the last call decides what was added since the filter was cleared.
  induction calls using List.reverseRecOn with
  | nil => simp [after, h, hasBit_noBits, not_addedIn_nil]
  | append_singleton calls c ih =>
    cases c with
    | add other =>
      rw [after_append, after_add, hasBit_add, Bool.or_eq_true, ih, decide_eq_true_iff,
        positions_after]
      simp only [addedIn_append_add]
      constructor
      · rintro (⟨item, ha, hb⟩ | hb)
        · exact ⟨item, Or.inl ha, hb⟩
        · exact ⟨other, Or.inr rfl, hb⟩
      · rintro ⟨item, ha | rfl, hb⟩
        · exact Or.inl ⟨item, ha, hb⟩
        · exact Or.inr hb
    | clear =>
      rw [after_append, after_clear]
      simp [clear, hasBit_noBits, not_addedIn_append_clear]

lemma contains_after_iff (h : f.words = noBits f.numBits) (calls : List FilterCall) (x : String) :
    (f.after calls).contains x = true ↔
      ∀ bit ∈ f.positions x, ∃ item, AddedIn calls item ∧ bit ∈ f.positions item := by
  rw [contains_eq_true_iff, positions_after]
  simp only [hasBit_after h]

lemma contains_after_iff_position (h : f.words = noBits f.numBits) (calls : List FilterCall)
    (x : String) :
    (f.after calls).contains x = true ↔
      ∀ i, 1 ≤ i → i ≤ f.numHashes.toNat →
        ∃ item, AddedIn calls item ∧
          ∃ j, 1 ≤ j ∧ j ≤ f.numHashes.toNat ∧ f.position item j = f.position x i := by
  have hinj : Function.Injective UInt64.toNat := fun _ _ => UInt64.toNat_inj.mp
  have hnumbers : (f.after calls).contains x = true ↔
      ∀ n ∈ (f.positions x).map UInt64.toNat,
        ∃ item, AddedIn calls item ∧ n ∈ (f.positions item).map UInt64.toNat := by
    simp only [contains_after_iff h, List.forall_mem_map, List.mem_map_of_injective hinj]
  rw [hnumbers]
  simp only [mem_toNat_positions]
  constructor
  · intro hall i hpos hle
    exact hall _ ⟨i, hpos, hle, rfl⟩
  · rintro hall n ⟨i, hpos, hle, rfl⟩
    exact hall i hpos hle

/-- What a filter contains is settled by the positions alone; what was added is contained, nothing
is after the filter was cleared, and it does not matter in which order or how often items are
added. The filter has as many bits as were reckoned, if these are one or more. -/
theorem contains_after_new {maxElements : Nat} {errorRate : Float} {f : BloomFilter}
    (h : new maxElements errorRate = .ok f) (calls : List FilterCall) (x : String) :
    ((f.after calls).contains x = true ↔
      ∀ i, 1 ≤ i → i ≤ f.numHashes.toNat →
        ∃ item, AddedIn calls item ∧
          ∃ j, 1 ≤ j ∧ j ≤ f.numHashes.toNat ∧ f.position item j = f.position x i) ∧
    (AddedIn calls x → (f.after calls).contains x = true) ∧
    (f.after (calls ++ [.clear])).contains x = false ∧
    (∀ y, f.after (calls ++ [.add x, .add y]) = f.after (calls ++ [.add y, .add x])) ∧
    (AddedIn calls x → f.after (calls ++ [.add x]) = f.after calls) ∧
    (∀ bit ∈ (f.after calls).positions x, wordIndex bit < (f.after calls).words.size) ∧
    (0 < bitsFor maxElements errorRate → f.numBits = bitsFor maxElements errorRate) ∧
    f.numHashes = hashesFor maxElements (bitsFor maxElements errorRate) := by
  obtain rfl := of_new h
  let f := empty (bitsFor maxElements errorRate)
    (hashesFor maxElements (bitsFor maxElements errorRate)) maxElements errorRate
  have hw : f.words = noBits f.numBits := words_empty
  have hh : 0 < f.numHashes := by
    rw [numHashes_empty]
    exact hashesFor_pos _ _
  have hcontains : AddedIn calls x → (f.after calls).contains x = true := fun hx =>
    (contains_after_iff hw calls x).mpr fun bit hb => ⟨x, hx, hb⟩
  refine ⟨contains_after_iff_position hw calls x, hcontains, ?_, fun y => ?_, fun hx => ?_,
    fun bit => (f.after calls).wordIndex_lt_size x, numBits_empty, numHashes_empty⟩
  · rw [after_append, after_clear]
    exact contains_clear _ _ ((f.size_after calls).2 ▸ hh)
  · rw [after_append, after_append]
    exact add_comm (f.after calls) x y
  · rw [after_append, after_add, add_eq_self (hcontains hx)]

theorem contains_after_new_sample :
    let calls : List FilterCall := [.add "a", .clear, .add "b"]
    AddedIn calls "b" ∧ ∃ f, new 1000 0.01 = .ok f ∧ (f.after calls).contains "b" = true ∧
      (f.after (calls ++ [.add "b"])) = f.after calls ∧
      (f.after (calls ++ [.clear])).contains "b" = false := by
  intro calls
  have hb : AddedIn calls "b" := ⟨[.add "a", .clear], [], rfl, by simp⟩
  have hnew : ∃ f, new 1000 0.01 = .ok f := by
    rw [new, if_neg (by decide), if_pos (by decide)]
    exact ⟨_, rfl⟩
  obtain ⟨f, hf⟩ := hnew
  obtain ⟨-, hcontains, hclear, -, hagain, -⟩ := contains_after_new hf calls "b"
  exact ⟨hb, f, hf, hcontains hb, hagain hb, hclear⟩

end BloomFilter

end Rollout
