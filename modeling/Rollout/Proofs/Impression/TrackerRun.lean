import Rollout.Impression.UniqueKeys
import Rollout.Proofs.Impression.BloomFilter

namespace Rollout

inductive TrackerCall
  | track (key flag : String)
  | popAll
  | clearFilter
  | setHook (hook : QueueFullHook)

inductive TrackerEvent
  | tracked (key flag : String)
  | known (key flag : String)
  | drained (keys : TrackedKeys)
  | cleared

namespace TrackerEvent

def isDrained : TrackerEvent → Bool
  | drained _ => true
  | _ => false

def isCleared : TrackerEvent → Bool
  | cleared => true
  | _ => false

def trackedPair? : TrackerEvent → Option (String × String)
  | tracked key flag => some (key, flag)
  | _ => none

lemma isCleared_eq_true_iff {e : TrackerEvent} : e.isCleared = true ↔ e = cleared := by
  cases e <;> simp [isCleared]

end TrackerEvent

/-- A log lists events, the last one in front. -/
def sinceDrain (log : List TrackerEvent) : List TrackerEvent :=
  log.takeWhile fun e => !e.isDrained

def sinceClear (log : List TrackerEvent) : List TrackerEvent :=
  log.takeWhile fun e => !e.isCleared

def trackedPairs (log : List TrackerEvent) : List (String × String) :=
  log.filterMap TrackerEvent.trackedPair?

section Logs

variable {log newer older : List TrackerEvent} {key flag : String}

lemma mem_trackedPairs : (key, flag) ∈ trackedPairs log ↔ .tracked key flag ∈ log := by
  rw [trackedPairs, List.mem_filterMap]
  constructor
  · rintro ⟨e, he, hp⟩
    cases e with
    | tracked k f =>
      cases hp
      exact he
    | known => cases hp
    | drained => cases hp
    | cleared => cases hp
  · intro h
    exact ⟨_, h, rfl⟩

lemma sinceClear_append (h : .cleared ∉ newer) :
    sinceClear (newer ++ older) = newer ++ sinceClear older := by
  refine List.takeWhile_append_of_pos fun e he => ?_
  have hf : e.isCleared = false :=
    Bool.eq_false_iff.mpr fun hc => h (TrackerEvent.isCleared_eq_true_iff.mp hc ▸ he)
  rw [hf]
  rfl

lemma mem_of_mem_sinceDrain_append {e : TrackerEvent} {keys : TrackedKeys}
    (h : e ∈ sinceDrain (newer ++ .drained keys :: older)) : e ∈ newer := by
  induction newer with
  | nil => cases h
  | cons first rest ih =>
    rw [sinceDrain, List.cons_append, List.takeWhile_cons] at h
    split at h
    · obtain rfl | hr := List.mem_cons.mp h
      · exact List.mem_cons_self
      · exact List.mem_cons_of_mem first (ih hr)
    · cases h

lemma mem_sinceClear_of_mem_sinceDrain {e : TrackerEvent} (h : .cleared ∉ sinceDrain log)
    (he : e ∈ sinceDrain log) : e ∈ sinceClear log := by
  have hsplit : sinceDrain log ++ log.dropWhile (fun e => !e.isDrained) = log :=
    List.takeWhile_append_dropWhile
  rw [← hsplit, sinceClear_append h]
  exact List.mem_append_left _ he

end Logs

namespace TrackedKeys

def holds (t : TrackedKeys) (key flag : String) : Bool :=
  ((t.keys.find? flag).getD .empty).contains key

lemma holds_empty_iff (key flag : String) :
    empty.holds key flag = true ↔ TrackerEvent.tracked key flag ∈ sinceDrain [] := by
  have hf : empty.holds key flag = false := rfl
  simp [hf, sinceDrain]

lemma holds_insert (t : TrackedKeys) (key flag k f : String) :
    (t.insert flag key).holds k f = true ↔ (k = key ∧ f = flag) ∨ t.holds k f = true := by
  rw [holds, insert, Dictionary.find?_insert]
  by_cases hf : flag = f
  · subst hf
    rw [if_pos rfl, Option.getD_some, StringSet.contains_insert, and_iff_left rfl]
    rfl
  · rw [if_neg hf, or_iff_right fun h => hf h.2.symm]
    rfl

end TrackedKeys

namespace UniqueKeysTracker

def fresh (threshold : Nat) (filter : BloomFilter) : UniqueKeysTracker :=
  ⟨filter.clear, .empty, threshold, none⟩

lemma new_eq_map_fresh (threshold capacity : Nat) (rate : Float) :
    new threshold capacity rate = (BloomFilter.new capacity rate).map (fresh threshold) := by
  rw [new, BloomFilter.new]
  split
  · rfl
  · split
    · simp only [Except.map, fresh, BloomFilter.clear_empty]
    · rfl

def learn (t : UniqueKeysTracker) (key flag : String) : UniqueKeysTracker :=
  { t with filter := t.filter.add (filterKey key flag), tracked := t.tracked.insert flag key }

variable (t : UniqueKeysTracker) (key flag : String)

lemma track_of_contains (h : t.filter.contains (filterKey key flag) = true) :
    t.track key flag = (⟨false, false, none⟩, t) := by
  rw [track, if_pos h]

lemma track_of_not_contains (h : t.filter.contains (filterKey key flag) = false) :
    t.track key flag =
      if t.threshold < t.tracked.size + 1 then (t.learn key flag).runHook
      else (⟨true, false, none⟩, t.learn key flag) := by
  rw [track, if_neg (Bool.eq_false_iff.mp h)]
  rfl

end UniqueKeysTracker

def TrackAnswer.events (answer : TrackAnswer) (key flag : String) : List TrackerEvent :=
  (answer.drained.map .drained).toList ++
    [if answer.isNew then .tracked key flag else .known key flag]

structure TrackerRun where
  tracker : UniqueKeysTracker
  log : List TrackerEvent

namespace TrackerRun

def call (r : TrackerRun) : TrackerCall → TrackerRun
  | .track key flag =>
    let (answer, tracker) := r.tracker.track key flag
    ⟨tracker, answer.events key flag ++ r.log⟩
  | .popAll =>
    let (keys, tracker) := r.tracker.popAll
    ⟨tracker, .drained keys :: r.log⟩
  | .clearFilter => ⟨r.tracker.clearFilter, .cleared :: r.log⟩
  | .setHook hook => ⟨r.tracker.setHook hook, r.log⟩

def learn (r : TrackerRun) (key flag : String) : TrackerRun :=
  ⟨r.tracker.learn key flag, .tracked key flag :: r.log⟩

lemma call_track_of_contains {r : TrackerRun} {key flag : String}
    (h : r.tracker.filter.contains (UniqueKeysTracker.filterKey key flag) = true) :
    r.call (.track key flag) = ⟨r.tracker, .known key flag :: r.log⟩ := by
  rw [call, UniqueKeysTracker.track_of_contains _ _ _ h]
  rfl

-- A hook drains a tracker as a caller does, so there is one step for both.
lemma call_track_of_not_contains {r : TrackerRun} {key flag : String}
    (h : r.tracker.filter.contains (UniqueKeysTracker.filterKey key flag) = false) :
    r.call (.track key flag) =
      if r.tracker.threshold < r.tracker.tracked.size + 1 ∧ r.tracker.hook = some .drain then
        (r.learn key flag).call .popAll
      else r.learn key flag := by
  have hhook : (r.tracker.learn key flag).hook = r.tracker.hook := rfl
  rw [call, UniqueKeysTracker.track_of_not_contains _ _ _ h]
  by_cases hlt : r.tracker.threshold < r.tracker.tracked.size + 1
  · rw [if_pos hlt, UniqueKeysTracker.runHook, hhook]
    cases r.tracker.hook with
    | none => simp [TrackAnswer.events, learn]
    | some hook =>
      cases hook with
      | notify => simp [TrackAnswer.events, learn]
      | drain => simp [hlt, TrackAnswer.events, learn, call]
  · rw [if_neg hlt, if_neg fun hand => hlt hand.1]
    rfl

lemma call_track_of_hook_none {r : TrackerRun} {key flag : String}
    (h : r.tracker.filter.contains (UniqueKeysTracker.filterKey key flag) = false)
    (hook : r.tracker.hook = none) : r.call (.track key flag) = r.learn key flag := by
  rw [call_track_of_not_contains h, if_neg (by simp [hook])]

end TrackerRun

def UniqueKeysTracker.run (t : UniqueKeysTracker) (calls : List TrackerCall) :
    List TrackerEvent :=
  (calls.foldl TrackerRun.call ⟨t, []⟩).log

end Rollout
