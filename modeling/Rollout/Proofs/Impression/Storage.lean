import Rollout.Impression.Strategy
import Rollout.Proofs.Impression.Observation
import Rollout.Proofs.Time

/-! Whether an impression is a repeat is told from the whole run before it, which is listed with the
last impression in front. -/

namespace Rollout

structure Batch where
  now : Int64
  items : List ImpressionWithAttributes

structure Sighting where
  impression : Impression
  now : Int64

def Batch.sightings (b : Batch) : List Sighting := b.items.map fun item => ⟨item.1, b.now⟩

/-- The clock never goes back, and impressions are processed in the hour of their own time. -/
structure Punctual (batches : List Batch) : Prop where
  ordered : batches.Pairwise fun b later => b.now ≤ later.now
  hours : ∀ b ∈ batches, ∀ item ∈ b.items, Time.startOfHour item.1.time = Time.startOfHour b.now

namespace Sighting

def Repeats (s earlier : Sighting) : Prop :=
  earlier.impression.hash = s.impression.hash ∧
    Time.startOfHour earlier.now = Time.startOfHour s.now

instance (s earlier : Sighting) : Decidable (s.Repeats earlier) := inferInstanceAs (Decidable (_ ∧ _))

def othersSince (s : Sighting) (seen : List Sighting) : Finset UInt64 :=
  ((seen.takeWhile fun earlier => ¬ s.Repeats earlier).map
    fun earlier => earlier.impression.hash).toFinset.erase s.impression.hash

/-- New in its hour, or forgotten since. -/
def Due (capacity : Nat) (seen : List Sighting) (s : Sighting) : Prop :=
  (∀ earlier ∈ seen, ¬ s.Repeats earlier) ∨ capacity ≤ (s.othersSince seen).card

instance (capacity : Nat) (seen : List Sighting) (s : Sighting) : Decidable (s.Due capacity seen) :=
  inferInstanceAs (Decidable (_ ∨ _))

def HourUnderflows (s : Sighting) : Prop := Time.hourOf s.now * Time.hour < Int64.minValue.toInt

instance (s : Sighting) : Decidable s.HourUnderflows := inferInstanceAs (Decidable (_ < _))

def Kept (capacity : Nat) (seen : List Sighting) (s : Sighting) : Prop :=
  s.Due capacity seen ∨ s.HourUnderflows

instance (capacity : Nat) (seen : List Sighting) (s : Sighting) : Decidable (s.Kept capacity seen) :=
  inferInstanceAs (Decidable (_ ∨ _))

end Sighting

section Selection

variable (keep : List Sighting → Sighting → Prop) [∀ seen s, Decidable (keep seen s)]

def select (seen : List Sighting) : List Sighting → List Impression
  | [] => []
  | s :: rest =>
    if keep seen s then s.impression :: select (s :: seen) rest else select (s :: seen) rest

def selectAll (seen : List Sighting) : List Batch → List (List Impression)
  | [] => []
  | b :: rest => select keep seen b.sightings :: selectAll (b.sightings.reverse ++ seen) rest

end Selection

def Strategy.storedAll (s : Strategy) : List Batch → List (List Impression)
  | [] => []
  | b :: rest =>
    let (routing, s) := s.route b.now b.items
    routing.toStore.map Impression.unlinked :: s.storedAll rest

namespace Sighting

variable {capacity : Nat} {s e : Sighting} {seen newer older : List Sighting}

structure Chronological (seen : List Sighting) : Prop where
  ordered : seen.Pairwise fun x earlier => earlier.now ≤ x.now
  hours : ∀ x ∈ seen, Time.startOfHour x.impression.time = Time.startOfHour x.now

lemma due_iff (same : e.impression.hash = s.impression.hash)
    (last : ∀ x ∈ newer, x.impression.hash ≠ s.impression.hash)
    (ordered : (s :: (newer ++ e :: older)).Pairwise fun x earlier => earlier.now ≤ x.now) :
    s.Due capacity (newer ++ e :: older) ↔
      Time.startOfHour e.now ≠ Time.startOfHour s.now ∨
        capacity ≤ (newer.map fun x => x.impression.hash).toFinset.card := by
  obtain ⟨hs, ho⟩ := List.pairwise_cons.mp ordered
  obtain ⟨-, ho, -⟩ := List.pairwise_append.mp ho
  obtain ⟨he, -⟩ := List.pairwise_cons.mp ho
  have hmem : e ∈ newer ++ e :: older := List.mem_append_right _ List.mem_cons_self
  by_cases hh : Time.startOfHour e.now = Time.startOfHour s.now
  · have hr : s.Repeats e := ⟨same, hh⟩
    have hw : (newer ++ e :: older).takeWhile (fun earlier => ¬ s.Repeats earlier) = newer := by
      rw [List.takeWhile_append_of_pos, List.takeWhile_cons_of_neg (by simpa using hr),
        List.append_nil]
      exact fun x hx => by simpa using fun hrep : s.Repeats x => last x hx hrep.1
    have hn : s.impression.hash ∉ (newer.map fun x => x.impression.hash).toFinset := by
      rw [List.mem_toFinset, List.mem_map]
      rintro ⟨x, hx, heq⟩
      exact last x hx heq
    rw [Due, othersSince, hw, Finset.erase_eq_of_notMem hn]
    refine or_congr (iff_of_false (fun hall => hall e hmem hr) (fun hne => hne hh)) Iff.rfl
  · -- The last sighting is of an earlier hour, and so is everything before it.
    have hlt : Time.hourOf e.now < Time.hourOf s.now :=
      Int.lt_iff_le_and_ne.mpr
        ⟨Time.hourOf_mono (hs e hmem), fun heq => hh (Time.startOfHour_eq_iff.mpr heq)⟩
    refine iff_of_true (Or.inl fun x hx hrep => ?_) (Or.inl hh)
    rcases List.mem_append.mp hx with hx | hx
    · exact last x hx hrep.1
    · rcases List.mem_cons.mp hx with rfl | hx
      · exact hh hrep.2
      · have hle : Time.hourOf x.now ≤ Time.hourOf e.now := Time.hourOf_mono (he x hx)
        have heq : Time.hourOf x.now = Time.hourOf s.now := Time.startOfHour_eq_iff.mp hrep.2
        omega

lemma remembered_settings (same : e.impression.hash = s.impression.hash)
    (last : ∀ x ∈ newer, x.impression.hash ≠ s.impression.hash) :
    remembered capacity (ImpressionObserver.settings ((newer ++ e :: older).map impression))
        s.impression.hash =
      if (newer.map fun x => x.impression.hash).toFinset.card < capacity then
        some e.impression.time else none := by
  have hlast : ∀ entry ∈ ImpressionObserver.settings (newer.map impression),
      entry.1 ≠ e.impression.hash := by
    intro entry hm
    rw [ImpressionObserver.settings, List.map_map] at hm
    obtain ⟨x, hx, rfl⟩ := List.mem_map.mp hm
    exact fun heq => last x hx (heq.trans same)
  have hsplit : ImpressionObserver.settings ((newer ++ e :: older).map impression) =
      ImpressionObserver.settings (newer.map impression) ++
        (e.impression.hash, e.impression.time) ::
          ImpressionObserver.settings (older.map impression) := by
    simp [ImpressionObserver.settings]
  have hkeys : (ImpressionObserver.settings (newer.map impression)).map Prod.fst =
      newer.map fun x => x.impression.hash := by
    simp [ImpressionObserver.settings]
  rw [← same, hsplit, remembered_append_cons hlast, hkeys]

lemma remembered_settings_of_forall_ne (h : ∀ x ∈ seen, x.impression.hash ≠ s.impression.hash) :
    remembered capacity (ImpressionObserver.settings (seen.map impression)) s.impression.hash = none := by
  refine remembered_of_forall_ne (fun entry hm => ?_) capacity
  rw [ImpressionObserver.settings, List.map_map] at hm
  obtain ⟨x, hx, rfl⟩ := List.mem_map.mp hm
  exact h x hx

lemma exists_last (s : Sighting) (seen : List Sighting) :
    (∀ x ∈ seen, x.impression.hash ≠ s.impression.hash) ∨
      ∃ newer e older, seen = newer ++ e :: older ∧ e.impression.hash = s.impression.hash ∧
        ∀ x ∈ newer, x.impression.hash ≠ s.impression.hash := by
  cases hf : seen.find? fun x => x.impression.hash = s.impression.hash with
  | none => exact Or.inl fun x hx => by simpa using List.find?_eq_none.mp hf x hx
  | some e =>
    obtain ⟨he, newer, older, rfl, hlast⟩ := List.find?_eq_some_iff_append.mp hf
    exact Or.inr ⟨newer, e, older, rfl, by simpa using he, fun x hx => by simpa using hlast x hx⟩

lemma shouldStore_iff (capacity : Nat) (h : Chronological (s :: seen)) :
    Strategy.shouldStore (Time.startOfHour s.now) { s.impression with
        previousTime := remembered capacity (ImpressionObserver.settings (seen.map impression))
          s.impression.hash } = true ↔
      s.Kept capacity seen := by
  rcases exists_last s seen with hne | ⟨newer, e, older, rfl, same, last⟩
  · rw [remembered_settings_of_forall_ne hne]
    exact iff_of_true rfl (Or.inl (Or.inl fun x hx hrep => hne x hx hrep.1))
  · have hmem : e ∈ newer ++ e :: older := List.mem_append_right _ List.mem_cons_self
    rw [remembered_settings same last, Kept, due_iff same last h.ordered]
    by_cases hc : (newer.map fun x => x.impression.hash).toFinset.card < capacity
    · have hh : Time.hourOf e.impression.time = Time.hourOf e.now :=
        Time.startOfHour_eq_iff.mp (h.hours e (List.mem_cons_of_mem _ hmem))
      have hle : Time.hourOf e.impression.time ≤ Time.hourOf s.now := by
        rw [hh]
        exact Time.hourOf_mono ((List.pairwise_cons.mp h.ordered).1 e hmem)
      rw [if_pos hc]
      change decide (e.impression.time < Time.startOfHour s.now) = true ↔ _
      rw [decide_eq_true_iff, Time.lt_startOfHour_iff hle, hh, ne_eq, ne_eq, Time.startOfHour_eq_iff,
        or_iff_left (Nat.not_le.mpr hc), HourUnderflows]
    · rw [if_neg hc]
      exact iff_of_true rfl (Or.inl (Or.inr (Nat.not_lt.mp hc)))

lemma Chronological.of_append (h : Chronological (newer ++ older)) : Chronological older :=
  ⟨(List.pairwise_append.mp h.ordered).2.1, fun x hx => h.hours x (List.mem_append_right _ hx)⟩

end Sighting

open ImpressionObserver (Remembers)

variable {capacity : Nat} {o : ImpressionObserver} {seen : List Sighting}

lemma observe_stored (positive : 0 < capacity) (now : Int64) (items : List ImpressionWithAttributes)
    (ho : Remembers o capacity (seen.map Sighting.impression))
    (h : Sighting.Chronological ((Batch.sightings ⟨now, items⟩).reverse ++ seen)) :
    (((o.observe items).1.map Prod.fst).filter
        (Strategy.shouldStore (Time.startOfHour now))).map Impression.unlinked =
      (select (Sighting.Kept capacity) seen (Batch.sightings ⟨now, items⟩)).map Impression.unlinked ∧
      Remembers (o.observe items).2 capacity
        (((Batch.sightings ⟨now, items⟩).reverse ++ seen).map Sighting.impression) := by
  induction items generalizing o seen with
  | nil => exact ⟨rfl, ho⟩
  | cons item rest ih =>
    obtain ⟨i, attributes⟩ := item
    have hrev : (Batch.sightings ⟨now, (i, attributes) :: rest⟩).reverse ++ seen =
        (Batch.sightings ⟨now, rest⟩).reverse ++ (⟨i, now⟩ :: seen) := by
      simp [Batch.sightings]
    rw [hrev] at h ⊢
    obtain ⟨hi, ho'⟩ := ho.testAndSet positive i
    obtain ⟨hstored, hrest⟩ := ih ho' h
    refine ⟨?_, hrest⟩
    have hkeep := Sighting.shouldStore_iff capacity h.of_append
    have hobserve : (o.observe ((i, attributes) :: rest)).1.map Prod.fst =
        (o.testAndSet i).1 :: ((o.testAndSet i).2.observe rest).1.map Prod.fst := rfl
    have hselect : select (Sighting.Kept capacity) seen
        (Batch.sightings ⟨now, (i, attributes) :: rest⟩) =
        if Sighting.Kept capacity seen ⟨i, now⟩ then
          i :: select (Sighting.Kept capacity) (⟨i, now⟩ :: seen) (Batch.sightings ⟨now, rest⟩)
        else select (Sighting.Kept capacity) (⟨i, now⟩ :: seen) (Batch.sightings ⟨now, rest⟩) := rfl
    rw [hobserve, hi, hselect]
    by_cases hk : Sighting.Kept capacity seen ⟨i, now⟩
    · rw [List.filter_cons_of_pos (hkeep.mpr hk), if_pos hk, List.map_cons, List.map_cons, hstored]
      rfl
    · rw [List.filter_cons_of_neg (mt hkeep.mp hk), if_neg hk, hstored]

lemma storedAll_eq_selectAll (positive : 0 < capacity) (batches : List Batch)
    (ho : Remembers o capacity (seen.map Sighting.impression))
    (h : Sighting.Chronological ((batches.flatMap Batch.sightings).reverse ++ seen)) :
    (Strategy.optimized o).storedAll batches =
      (selectAll (Sighting.Kept capacity) seen batches).map (List.map Impression.unlinked) := by
  induction batches generalizing o seen with
  | nil => rfl
  | cons b rest ih =>
    rw [List.flatMap_cons, List.reverse_append, List.append_assoc] at h
    obtain ⟨hstored, ho'⟩ := observe_stored positive b.now b.items ho h.of_append
    have hroute : (Strategy.optimized o).storedAll (b :: rest) =
        (((o.observe b.items).1.map Prod.fst).filter
            (Strategy.shouldStore (Time.startOfHour b.now))).map Impression.unlinked ::
          (Strategy.optimized (o.observe b.items).2).storedAll rest := rfl
    rw [hroute, hstored, ih ho' h]
    rfl

lemma Punctual.chronological {batches : List Batch} (h : Punctual batches) :
    Sighting.Chronological (batches.flatMap Batch.sightings).reverse := by
  refine ⟨List.pairwise_reverse.mpr (List.pairwise_flatMap.mpr ⟨fun b _ => ?_, ?_⟩), fun x hx => ?_⟩
  · exact List.pairwise_map.mpr (List.pairwise_of_forall fun _ _ => Int64.le_refl b.now)
  · refine h.ordered.imp fun {b later} hle x hx y hy => ?_
    obtain ⟨i, -, rfl⟩ := List.mem_map.mp hx
    obtain ⟨j, -, rfl⟩ := List.mem_map.mp hy
    exact hle
  · obtain ⟨b, hb, hx⟩ := List.mem_flatMap.mp (List.mem_reverse.mp hx)
    obtain ⟨item, hi, rfl⟩ := List.mem_map.mp hx
    exact h.hours b hb item hi

/-- The impressions that are stored are those that are due, and all of an hour that underflows. -/
theorem storedAll_eq_kept (capacity : Nat) (positive : 0 < capacity) :
    ∃ s, Strategy.new .optimized capacity = .ok s ∧
      ∀ batches, Punctual batches →
        s.storedAll batches =
          (selectAll (Sighting.Kept capacity) [] batches).map (List.map Impression.unlinked) := by
  obtain ⟨o, hn, ho⟩ := ImpressionObserver.remembers_new positive
  refine ⟨.optimized o, by rw [Strategy.new, hn]; rfl, fun batches hp => ?_⟩
  refine storedAll_eq_selectAll positive batches ho ?_
  rw [List.append_nil]
  exact hp.chronological

def sample (matchingKey : String) (time : Int64) : Impression where
  matchingKey := matchingKey
  feature := "checkout"
  treatment := "on"
  label := "default rule"
  changeNumber := 1
  bucketingKey := none
  time := time
  previousTime := none

theorem storedAll_capacity_one :
    let batches : List Batch :=
      [⟨10, [(sample "a" 5, none), (sample "b" 6, none), (sample "a" 7, none)]⟩,
        ⟨20, [(sample "a" 20, none)]⟩, ⟨3600000, [(sample "a" 3600000, none)]⟩]
    Punctual batches ∧ ∃ s, Strategy.new .optimized 1 = .ok s ∧
      s.storedAll batches =
        [[sample "a" 5, sample "b" 6, sample "a" 7], [], [sample "a" 3600000]] := by
  intro batches
  have hp : Punctual batches := ⟨by decide, by decide⟩
  obtain ⟨s, hn, hs⟩ := storedAll_eq_kept 1 (by decide)
  refine ⟨hp, s, hn, ?_⟩
  rw [hs batches hp]
  decide +kernel

theorem storedAll_ne_due_of_underflow :
    let first : Int64 := -9223372036854775808
    let batches : List Batch := [⟨first, [(sample "a" first, none), (sample "a" first, none)]⟩]
    Punctual batches ∧ ∃ s, Strategy.new .optimized 1 = .ok s ∧
      s.storedAll batches = [[sample "a" first, sample "a" first]] ∧
      selectAll (Sighting.Due 1) [] batches = [[sample "a" first]] := by
  intro first batches
  have hp : Punctual batches := ⟨by decide, by decide⟩
  obtain ⟨o, hn, ho⟩ := ImpressionObserver.remembers_new Nat.zero_lt_one
  have hs : (Strategy.optimized o).storedAll batches =
      (selectAll (Sighting.Kept 1) [] batches).map (List.map Impression.unlinked) := by
    refine storedAll_eq_selectAll Nat.zero_lt_one batches ho ?_
    rw [List.append_nil]
    exact hp.chronological
  refine ⟨hp, .optimized o, by rw [Strategy.new, hn]; rfl, ?_, by decide +kernel⟩
  rw [hs]
  decide +kernel

end Rollout
