import Mathlib.Data.Finset.Card
import Rollout.Proofs.Impression.Tracking

/-! A key that was tracked on both sides of a cleared filter counts twice, while the map holds it
once. -/

namespace Rollout

namespace TrackedKeys

def pairs (t : TrackedKeys) : List (String × String) :=
  t.keys.entries.flatMap fun entry => entry.2.items.map fun key => (key, entry.1)

def total (t : TrackedKeys) : Nat := (t.keys.values.map StringSet.size).sum

variable (t : TrackedKeys)

lemma length_pairs : t.pairs.length = t.total := by
  rw [pairs, List.length_flatMap, total, Dictionary.values, List.map_map]
  congr 1
  refine List.map_congr_left fun entry _ => ?_
  rw [List.length_map]
  rfl

lemma nodup_pairs : t.pairs.Nodup := by
  rw [pairs, List.nodup_flatMap]
  constructor
  · intro entry _
    exact entry.2.nodup.map fun key other h => congrArg Prod.fst h
  · refine (List.pairwise_map.mp t.keys.nodup).imp fun hne => ?_
    intro pair h₁ h₂
    obtain ⟨_, _, rfl⟩ := List.mem_map.mp h₁
    obtain ⟨_, _, heq⟩ := List.mem_map.mp h₂
    exact hne (congrArg Prod.snd heq).symm

lemma mem_pairs {key flag : String} : (key, flag) ∈ t.pairs ↔ t.holds key flag = true := by
  have hiff : (key, flag) ∈ t.pairs ↔ ∃ set, t.keys.find? flag = some set ∧ key ∈ set.items := by
    simp only [pairs, List.mem_flatMap, List.mem_map, Prod.exists, Dictionary.find?_eq_some_iff]
    constructor
    · rintro ⟨f, set, hm, k, hk, heq⟩
      cases heq
      exact ⟨set, hm, hk⟩
    · rintro ⟨set, hm, hk⟩
      exact ⟨flag, set, hm, key, hk, rfl⟩
  rw [hiff, holds]
  cases t.keys.find? flag with
  | none => simp [StringSet.contains, StringSet.empty]
  | some set => simp [StringSet.contains]

end TrackedKeys

lemma nodup_trackedPairs {newer : List TrackerEvent} (older : List TrackerEvent)
    (h : ∀ e earlier, e :: earlier <:+ newer ++ older → e.Follows earlier)
    (hc : .cleared ∉ newer) : (trackedPairs newer).Nodup := by
  induction newer with
  | nil => exact List.nodup_nil
  | cons e rest ih =>
    have hrest : .cleared ∉ rest := fun hm => hc (List.mem_cons_of_mem e hm)
    have hnodup : (trackedPairs rest).Nodup :=
      ih (fun e' earlier hs => h e' earlier (hs.trans (List.suffix_cons e _))) hrest
    cases e with
    | tracked key flag =>
      -- A pair that is tracked is new since the filter was cleared, which was before all of `newer`.
      have hnot : .tracked key flag ∉ sinceClear (rest ++ older) := h _ _ List.suffix_rfl
      rw [sinceClear_append hrest] at hnot
      have hpair : (key, flag) ∉ trackedPairs rest := fun hm =>
        hnot (List.mem_append_left _ (mem_trackedPairs.mp hm))
      exact List.nodup_cons.mpr ⟨hpair, hnodup⟩
    | known => exact hnodup
    | drained => exact hnodup
    | cleared => exact hnodup

namespace UniqueKeysTracker

/-- The count of a drained map is the number of tracks since the drain before it, and the map holds
as many keys as there are different ones among them. These numbers agree unless the filter was
cleared in between. -/
theorem drained_size (threshold : Nat) (filter : BloomFilter) (calls : List TrackerCall)
    (keys : TrackedKeys) (earlier : List TrackerEvent)
    (drained : .drained keys :: earlier <:+ (fresh threshold filter).run calls) :
    keys.size = (trackedPairs (sinceDrain earlier)).length ∧
      keys.total = (trackedPairs (sinceDrain earlier)).toFinset.card ∧
      (.cleared ∉ sinceDrain earlier → keys.size = keys.total) := by
  obtain ⟨hholds, hsize⟩ := follows_of_suffix_run drained
  have hpairs : keys.pairs.toFinset = (trackedPairs (sinceDrain earlier)).toFinset := by
    ext ⟨key, flag⟩
    rw [List.mem_toFinset, List.mem_toFinset, TrackedKeys.mem_pairs, hholds, mem_trackedPairs]
  have htotal : keys.total = (trackedPairs (sinceDrain earlier)).toFinset.card := by
    rw [← hpairs, List.toFinset_card_of_nodup keys.nodup_pairs, TrackedKeys.length_pairs]
  refine ⟨hsize, htotal, fun hc => ?_⟩
  have hnodup : (trackedPairs (sinceDrain earlier)).Nodup := by
    have hsplit : sinceDrain earlier ++ earlier.dropWhile (fun e => !e.isDrained) = earlier :=
      List.takeWhile_append_dropWhile
    refine nodup_trackedPairs (earlier.dropWhile fun e => !e.isDrained) (fun e before hs => ?_) hc
    rw [hsplit] at hs
    exact follows_of_suffix_run (hs.trans ((List.suffix_cons _ _).trans drained))
  rw [hsize, htotal, List.toFinset_card_of_nodup hnodup]

def trackedTwice (key flag : String) : List TrackerCall :=
  [.track key flag, .clearFilter, .track key flag, .popAll]

lemma drained_trackedTwice (threshold : Nat) (filter : BloomFilter) (h : 0 < filter.numHashes)
    (key flag : String) :
    [.drained ((TrackedKeys.empty.insert flag key).insert flag key), .tracked key flag, .cleared,
      .tracked key flag] <:+ (fresh threshold filter).run (trackedTwice key flag) := by
  have hclear : filter.clear.contains (filterKey key flag) = false :=
    BloomFilter.contains_clear _ _ h
  let start : TrackerRun := ⟨fresh threshold filter, []⟩
  let cleared : TrackerRun := (start.learn key flag).call .clearFilter
  have hfirst : start.call (.track key flag) = start.learn key flag :=
    TrackerRun.call_track_of_hook_none hclear rfl
  -- the filter that was cleared again is the one that was cleared at first
  have hsecond : cleared.call (.track key flag) = cleared.learn key flag :=
    TrackerRun.call_track_of_hook_none hclear rfl
  have hrun : (fresh threshold filter).run (trackedTwice key flag) =
      ((((start.call (.track key flag)).call .clearFilter).call
        (.track key flag)).call .popAll).log := rfl
  rw [hrun, hfirst, hsecond]
  exact List.suffix_rfl

theorem drained_size_trackedTwice :
    let log := (fresh 100 sampleFilter).run (trackedTwice "user-1" "checkout")
    ∃ keys earlier, .drained keys :: earlier <:+ log ∧ keys.size = 2 ∧ keys.total = 1 := by
  have hs := drained_trackedTwice 100 sampleFilter (by decide) "user-1" "checkout"
  obtain ⟨hsize, htotal, -⟩ := drained_size 100 sampleFilter _ _ _ hs
  exact ⟨_, _, hs, hsize, htotal⟩

theorem size_ne_total_trackedTwice :
    ¬ ∀ (threshold : Nat) (filter : BloomFilter) (calls : List TrackerCall) (keys : TrackedKeys)
      (earlier : List TrackerEvent),
      .drained keys :: earlier <:+ (fresh threshold filter).run calls → keys.size = keys.total := by
  intro h
  have hs := drained_trackedTwice 100 sampleFilter (by decide) "user-1" "checkout"
  exact absurd (h 100 sampleFilter _ _ _ hs) (by decide)

end UniqueKeysTracker

end Rollout
