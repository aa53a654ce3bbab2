import Rollout.Proofs.Impression.TrackerRun

namespace Rollout

def TrackerEvent.Follows (earlier : List TrackerEvent) : TrackerEvent → Prop
  | tracked key flag => tracked key flag ∉ sinceClear earlier
  | known _ _ => True
  | drained keys =>
    (∀ key flag, keys.holds key flag = true ↔ tracked key flag ∈ sinceDrain earlier) ∧
      keys.size = (trackedPairs (sinceDrain earlier)).length
  | cleared => True

namespace TrackerRun

/-- The tracker holds what was tracked since the last drain, and its filter contains what was tracked
since it was cleared. -/
structure Consistent (r : TrackerRun) : Prop where
  holds : ∀ key flag,
    r.tracker.tracked.holds key flag = true ↔ .tracked key flag ∈ sinceDrain r.log
  size : r.tracker.tracked.size = (trackedPairs (sinceDrain r.log)).length
  contains : ∀ key flag, .tracked key flag ∈ sinceClear r.log →
    r.tracker.filter.contains (UniqueKeysTracker.filterKey key flag) = true
  follows : ∀ e earlier, e :: earlier <:+ r.log → e.Follows earlier

lemma follows_cons {e : TrackerEvent} {log : List TrackerEvent} (he : e.Follows log)
    (h : ∀ e earlier, e :: earlier <:+ log → e.Follows earlier) :
    ∀ e' earlier, e' :: earlier <:+ e :: log → e'.Follows earlier := by
  intro e' earlier hs
  obtain heq | hs := List.suffix_cons_iff.mp hs
  · cases heq
    exact he
  · exact h e' earlier hs

lemma consistent_fresh (threshold : Nat) (filter : BloomFilter) :
    Consistent ⟨.fresh threshold filter, []⟩ where
  holds := TrackedKeys.holds_empty_iff
  size := rfl
  contains _ _ h := absurd h List.not_mem_nil
  follows _ _ h := absurd (List.suffix_nil.mp h) (List.cons_ne_nil _ _)

variable {r : TrackerRun}

lemma Consistent.known (h : r.Consistent) (key flag : String) :
    Consistent ⟨r.tracker, .known key flag :: r.log⟩ where
  holds k f := by
    simpa [sinceDrain, TrackerEvent.isDrained] using h.holds k f
  size := h.size
  contains k f hm := h.contains k f (by simpa [sinceClear, TrackerEvent.isCleared] using hm)
  follows := follows_cons trivial h.follows

lemma Consistent.learn (h : r.Consistent) {key flag : String}
    (hc : r.tracker.filter.contains (UniqueKeysTracker.filterKey key flag) = false) :
    (r.learn key flag).Consistent where
  holds k f := by
    have hs : sinceDrain (.tracked key flag :: r.log) = .tracked key flag :: sinceDrain r.log := rfl
    change (r.tracker.tracked.insert flag key).holds k f = true ↔ _ ∈ sinceDrain (_ :: r.log)
    rw [TrackedKeys.holds_insert, h.holds, hs, List.mem_cons, TrackerEvent.tracked.injEq]
  size := congrArg (· + 1) h.size
  contains k f hm := by
    obtain heq | hm := List.mem_cons.mp hm
    · cases heq
      exact BloomFilter.contains_add_self _ _
    · exact BloomFilter.contains_add_of_contains _ (h.contains k f hm)
  follows := by
    refine follows_cons (fun hm => ?_) h.follows
    rw [h.contains key flag hm] at hc
    cases hc

lemma Consistent.popAll (h : r.Consistent) : (r.call .popAll).Consistent where
  holds := TrackedKeys.holds_empty_iff
  size := rfl
  contains key flag hm := by
    obtain heq | hm := List.mem_cons.mp hm
    · cases heq
    · exact h.contains key flag hm
  follows := follows_cons ⟨h.holds, h.size⟩ h.follows

lemma Consistent.clearFilter (h : r.Consistent) : (r.call .clearFilter).Consistent where
  holds key flag := by
    simpa [call, UniqueKeysTracker.clearFilter, sinceDrain, TrackerEvent.isDrained]
      using h.holds key flag
  size := h.size
  contains _ _ hm := absurd hm List.not_mem_nil
  follows := follows_cons trivial h.follows

lemma Consistent.call (h : r.Consistent) (c : TrackerCall) : (r.call c).Consistent := by
  cases c with
  | track key flag =>
    cases hc : r.tracker.filter.contains (UniqueKeysTracker.filterKey key flag) with
    | true =>
      rw [call_track_of_contains hc]
      exact h.known key flag
    | false =>
      rw [call_track_of_not_contains hc]
      split
      · exact (h.learn hc).popAll
      · exact h.learn hc
  | popAll => exact h.popAll
  | clearFilter => exact h.clearFilter
  | setHook hook => exact ⟨h.holds, h.size, h.contains, h.follows⟩

lemma Consistent.calls (h : r.Consistent) (calls : List TrackerCall) :
    (calls.foldl TrackerRun.call r).Consistent := by
  induction calls generalizing r with
  | nil => exact h
  | cons c rest ih => exact ih (h.call c)

end TrackerRun

namespace UniqueKeysTracker

lemma follows_of_suffix_run {threshold : Nat} {filter : BloomFilter} {calls : List TrackerCall}
    {e : TrackerEvent} {earlier : List TrackerEvent}
    (h : e :: earlier <:+ (fresh threshold filter).run calls) : e.Follows earlier :=
  ((TrackerRun.consistent_fresh threshold filter).calls calls).follows e earlier h

/-- A drained map holds exactly the keys tracked since the drain before it. No key is tracked twice
for a flag without a cleared filter in between, so that two maps have nothing in common unless the
filter was cleared after the drain before the first of them. -/
theorem drained_iff_tracked (threshold : Nat) (filter : BloomFilter) (calls : List TrackerCall) :
    let log := (fresh threshold filter).run calls
    (∀ capacity rate,
      new threshold capacity rate = (BloomFilter.new capacity rate).map (fresh threshold)) ∧
    (∀ keys earlier, .drained keys :: earlier <:+ log → ∀ key flag,
      keys.holds key flag = true ↔ .tracked key flag ∈ sinceDrain earlier) ∧
    (∀ key flag between earlier,
      .tracked key flag :: (between ++ .tracked key flag :: earlier) <:+ log →
        .cleared ∈ between) ∧
    (∀ first second between earlier,
      .drained second :: (between ++ .drained first :: earlier) <:+ log →
        .cleared ∉ between → .cleared ∉ sinceDrain earlier → ∀ key flag,
          ¬ (first.holds key flag = true ∧ second.holds key flag = true)) := by
  intro log
  refine ⟨new_eq_map_fresh threshold, fun keys earlier h => (follows_of_suffix_run h).1, ?_, ?_⟩
  · intro key flag between earlier h
    by_contra hb
    have hnot : .tracked key flag ∉ sinceClear (between ++ .tracked key flag :: earlier) :=
      follows_of_suffix_run h
    rw [sinceClear_append hb] at hnot
    exact hnot (List.mem_append_right _ List.mem_cons_self)
  · rintro first second between earlier h hb he key flag ⟨hfirst, hsecond⟩
    have hs : .drained first :: earlier <:+ log :=
      (List.suffix_append between _).trans ((List.suffix_cons _ _).trans h)
    rw [(follows_of_suffix_run h).1] at hsecond
    rw [(follows_of_suffix_run hs).1] at hfirst
    obtain ⟨after, before, rfl⟩ := List.append_of_mem (mem_of_mem_sinceDrain_append hsecond)
    have ht : .tracked key flag :: (before ++ .drained first :: earlier) <:+ log := by
      refine List.IsSuffix.trans ?_ ((List.suffix_cons _ _).trans h)
      rw [List.append_assoc]
      exact List.suffix_append after _
    have hbefore : .cleared ∉ before ++ [.drained first] := by
      simpa using fun hc => hb (List.mem_append_right _ (List.mem_cons_of_mem _ hc))
    have hnot : .tracked key flag ∉ sinceClear (before ++ [.drained first] ++ earlier) := by
      rw [List.append_assoc]
      exact follows_of_suffix_run ht
    rw [sinceClear_append hbefore] at hnot
    exact hnot (List.mem_append_right _ (mem_sinceClear_of_mem_sinceDrain he hfirst))

def sampleFilter : BloomFilter where
  words := BloomFilter.noBits 9586
  numBits := 9586
  numHashes := 7
  maxElements := 1000
  errorRate := 0.01
  numBits_pos := by decide
  size_words := BloomFilter.size_noBits 9586

lemma run_track_pop_twice (threshold : Nat) (filter : BloomFilter) (h : 0 < filter.numHashes)
    (key flag : String) :
    (fresh threshold filter).run [.track key flag, .popAll, .track key flag, .popAll] =
      [.drained .empty, .known key flag, .drained (TrackedKeys.empty.insert flag key),
        .tracked key flag] := by
  have hclear : filter.clear.contains (filterKey key flag) = false :=
    BloomFilter.contains_clear _ _ h
  let start : TrackerRun := ⟨fresh threshold filter, []⟩
  let popped : TrackerRun := (start.learn key flag).call .popAll
  have hfirst : start.call (.track key flag) = start.learn key flag :=
    TrackerRun.call_track_of_hook_none hclear rfl
  have hsecond : popped.call (.track key flag) = ⟨popped.tracker, .known key flag :: popped.log⟩ :=
    TrackerRun.call_track_of_contains (BloomFilter.contains_add_self _ _)
  have hrun : (fresh threshold filter).run [.track key flag, .popAll, .track key flag, .popAll] =
      ((((start.call (.track key flag)).call .popAll).call
        (.track key flag)).call .popAll).log := rfl
  rw [hrun, hfirst, hsecond]
  rfl

theorem drained_track_pop_twice :
    ∃ first second between earlier,
      (fresh 100 sampleFilter).run [.track "user-1" "checkout", .popAll, .track "user-1" "checkout",
          .popAll] = .drained second :: (between ++ .drained first :: earlier) ∧
        .cleared ∉ between ∧ .cleared ∉ sinceDrain earlier ∧
          first.holds "user-1" "checkout" = true ∧ ¬ second.holds "user-1" "checkout" = true := by
  have hlog := run_track_pop_twice 100 sampleFilter (by decide) "user-1" "checkout"
  obtain ⟨-, hheld, -, hdisjoint⟩ := drained_iff_tracked 100 sampleFilter
    [.track "user-1" "checkout", .popAll, .track "user-1" "checkout", .popAll]
  rw [hlog] at hheld hdisjoint ⊢
  have hfirst := (hheld (TrackedKeys.empty.insert "checkout" "user-1") [.tracked "user-1" "checkout"]
    ⟨[.drained .empty, .known "user-1" "checkout"], rfl⟩ "user-1" "checkout").mpr
      List.mem_cons_self
  have hbetween : .cleared ∉ [TrackerEvent.known "user-1" "checkout"] := by simp
  have hearlier : .cleared ∉ sinceDrain [TrackerEvent.tracked "user-1" "checkout"] := by
    simp [sinceDrain, TrackerEvent.isDrained]
  have hsecond := fun held => hdisjoint _ .empty _ _ List.suffix_rfl hbetween hearlier
    "user-1" "checkout" ⟨hfirst, held⟩
  exact ⟨_, _, _, _, rfl, hbetween, hearlier, hfirst, hsecond⟩

end UniqueKeysTracker

end Rollout
