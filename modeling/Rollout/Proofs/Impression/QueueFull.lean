import Rollout.Proofs.Impression.Tracking

namespace Rollout

namespace TrackerRun

def draining (threshold : Nat) (filter : BloomFilter) (calls : List TrackerCall) : TrackerRun :=
  calls.foldl call ⟨(UniqueKeysTracker.fresh threshold filter).setHook .drain, []⟩

lemma consistent_draining (threshold : Nat) (filter : BloomFilter) (calls : List TrackerCall) :
    (draining threshold filter calls).Consistent :=
  (consistent_fresh threshold filter).calls (.setHook .drain :: calls)

structure Bounded (limit : Nat) (r : TrackerRun) : Prop where
  hook : r.tracker.hook = some .drain
  threshold : r.tracker.threshold = limit
  size : r.tracker.tracked.size ≤ limit

variable {threshold : Nat} {r : TrackerRun} {key flag : String}

lemma Bounded.track (h : r.Bounded threshold) (key flag : String) :
    (r.call (.track key flag)).Bounded threshold := by
  cases hc : r.tracker.filter.contains (UniqueKeysTracker.filterKey key flag) with
  | true =>
    rw [call_track_of_contains hc]
    exact ⟨h.hook, h.threshold, h.size⟩
  | false =>
    rw [call_track_of_not_contains hc, h.threshold]
    split
    · exact ⟨h.hook, h.threshold, Nat.zero_le threshold⟩
    · rename_i hroom
      have hle : r.tracker.tracked.size + 1 ≤ threshold :=
        Nat.le_of_not_lt fun hlt => hroom ⟨hlt, h.hook⟩
      exact ⟨h.hook, h.threshold, hle⟩

lemma Bounded.call (h : r.Bounded threshold) {c : TrackerCall} (hc : c ≠ .setHook .notify) :
    (r.call c).Bounded threshold := by
  cases c with
  | track key flag => exact h.track key flag
  | popAll => exact ⟨h.hook, h.threshold, Nat.zero_le threshold⟩
  | clearFilter => exact ⟨h.hook, h.threshold, h.size⟩
  | setHook hook =>
    cases hook with
    | notify => exact absurd rfl hc
    | drain => exact ⟨rfl, h.threshold, h.size⟩

lemma Bounded.calls {calls : List TrackerCall} (h : r.Bounded threshold)
    (hcalls : .setHook .notify ∉ calls) : (calls.foldl TrackerRun.call r).Bounded threshold := by
  induction calls generalizing r with
  | nil => exact h
  | cons c rest ih =>
    obtain ⟨hc, hrest⟩ := List.ne_and_not_mem_of_not_mem_cons hcalls
    exact ih (h.call hc.symm) hrest

lemma bounded_draining (filter : BloomFilter) {calls : List TrackerCall}
    (hcalls : .setHook .notify ∉ calls) : (draining threshold filter calls).Bounded threshold :=
  Bounded.calls ⟨rfl, rfl, Nat.zero_le threshold⟩ hcalls

lemma Bounded.answer (h : r.Bounded threshold) (key flag : String) :
    (r.tracker.track key flag).1 =
      if r.tracker.filter.contains (UniqueKeysTracker.filterKey key flag) then ⟨false, false, none⟩
      else if r.tracker.tracked.size = threshold then
        ⟨true, true, some (r.tracker.tracked.insert flag key)⟩
      else ⟨true, false, none⟩ := by
  cases hc : r.tracker.filter.contains (UniqueKeysTracker.filterKey key flag) with
  | true =>
    rw [UniqueKeysTracker.track_of_contains _ _ _ hc]
    rfl
  | false =>
    have hhook : (r.tracker.learn key flag).hook = some .drain := h.hook
    have hfull : threshold < r.tracker.tracked.size + 1 ↔ r.tracker.tracked.size = threshold := by
      have hle := h.size
      omega
    rw [UniqueKeysTracker.track_of_not_contains _ _ _ hc, h.threshold, UniqueKeysTracker.runHook,
      hhook]
    simp only [hfull, Bool.false_eq_true, if_false]
    split
    · rfl
    · rfl

end TrackerRun

namespace UniqueKeysTracker

open TrackerRun

/-- However keys are tracked, drained and forgotten under a draining hook, no more are held than the
threshold. The hook runs for one track only, the one that is the first beyond the threshold since the
last drain, and it runs once. -/
theorem hookRan_iff (threshold : Nat) (filter : BloomFilter) (calls : List TrackerCall)
    (drains : .setHook .notify ∉ calls) (key flag : String) :
    let r := draining threshold filter calls
    let answer := (r.tracker.track key flag).1
    r.tracker.tracked.size ≤ threshold ∧
      (answer.hookRan = true ↔
        answer.isNew = true ∧ (trackedPairs (sinceDrain r.log)).length + 1 = threshold + 1) ∧
      (answer.events key flag).countP TrackerEvent.isDrained = answer.hookRan.toNat ∧
      answer.drained.map TrackedKeys.size =
        if answer.hookRan then some (threshold + 1) else none := by
  intro r answer
  have hbounded : r.Bounded threshold := bounded_draining filter drains
  have hsize : r.tracker.tracked.size = (trackedPairs (sinceDrain r.log)).length :=
    (consistent_draining threshold filter calls).size
  have hanswer : answer = _ := hbounded.answer key flag
  refine ⟨hbounded.size, ?_⟩
  rw [← hsize, hanswer]
  split
  · simp [TrackAnswer.events, TrackerEvent.isDrained]
  · split
    · rename_i hfull
      have hlearned : (r.tracker.tracked.insert flag key).size = threshold + 1 :=
        congrArg (· + 1) hfull
      simp [TrackAnswer.events, List.countP_cons, TrackerEvent.isDrained, hfull, hlearned]
    · rename_i hroom
      simp [TrackAnswer.events, TrackerEvent.isDrained, hroom]

def trackedAndForgotten (key flag : String) : List TrackerCall := [.track key flag, .clearFilter]

lemma draining_trackedAndForgotten (filter : BloomFilter) (h : 0 < filter.numHashes)
    (key flag : String) :
    let r := draining 1 filter (trackedAndForgotten key flag)
    (trackedPairs (sinceDrain r.log)).length = 1 ∧ (r.tracker.track key flag).1.isNew = true := by
  have hclear : filter.clear.contains (filterKey key flag) = false :=
    BloomFilter.contains_clear _ _ h
  let start : TrackerRun := ⟨(fresh 1 filter).setHook .drain, []⟩
  have hfirst : start.call (.track key flag) = start.learn key flag := by
    rw [TrackerRun.call, track_of_not_contains _ _ _ hclear]
    rfl
  have hrun : draining 1 filter (trackedAndForgotten key flag) =
      (start.call (.track key flag)).call .clearFilter := rfl
  rw [hrun, hfirst]
  refine ⟨rfl, ?_⟩
  rw [track_of_not_contains _ _ _ hclear]
  rfl

theorem hookRan_trackedAgain :
    let r := draining 1 sampleFilter (trackedAndForgotten "user-1" "checkout")
    let answer := (r.tracker.track "user-1" "checkout").1
    .setHook .notify ∉ trackedAndForgotten "user-1" "checkout" ∧
      r.tracker.tracked.size ≤ 1 ∧ answer.isNew = true ∧ answer.hookRan = true ∧
      answer.drained.map TrackedKeys.size = if answer.hookRan then some 2 else none := by
  have hcalls : .setHook .notify ∉ trackedAndForgotten "user-1" "checkout" := by
    simp [trackedAndForgotten]
  obtain ⟨htracked, hnew⟩ :=
    draining_trackedAndForgotten sampleFilter (by decide) "user-1" "checkout"
  obtain ⟨hsize, hran, -, hdrained⟩ := hookRan_iff 1 sampleFilter _ hcalls "user-1" "checkout"
  exact ⟨hcalls, hsize, hnew, hran.mpr ⟨hnew, Nat.add_left_inj.mpr htracked⟩, hdrained⟩

end UniqueKeysTracker

end Rollout
