import Rollout.Proofs.Impression.FilterContents
import Rollout.Proofs.Impression.Tracking

/-! A filter knows a pair of a key and a flag by the two texts written one after the other, so a
pair can be known because of another one that is written the same. -/

namespace Rollout

def MovedAcross (key flag k f : String) : Prop :=
  ∃ moved, moved ≠ "" ∧ flag = f ++ moved ∧ k = moved ++ key

namespace UniqueKeysTracker

variable {key flag k f : String}

lemma filterKey_of_movedAcross (h : MovedAcross key flag k f) :
    filterKey key flag = filterKey k f := by
  obtain ⟨moved, -, rfl, rfl⟩ := h
  rw [filterKey, filterKey, String.append_assoc]

lemma eq_or_movedAcross {moved : List Char} (hflag : flag.toList = f.toList ++ moved)
    (hkey : k.toList = moved ++ key.toList) : (key = k ∧ flag = f) ∨ MovedAcross key flag k f := by
  rcases eq_or_ne moved [] with rfl | hmoved
  · left
    rw [List.append_nil] at hflag
    exact ⟨(String.toList_injective hkey).symm, String.toList_injective hflag⟩
  · right
    refine ⟨String.ofList moved, fun h => hmoved ?_, ?_, ?_⟩
    · simpa using h
    · apply String.toList_injective
      rw [hflag, String.toList_append, String.toList_ofList]
    · apply String.toList_injective
      rw [hkey, String.toList_append, String.toList_ofList]

lemma filterKey_eq_iff : filterKey key flag = filterKey k f ↔
    (key = k ∧ flag = f) ∨ MovedAcross key flag k f ∨ MovedAcross k f key flag := by
  constructor
  · intro h
    have htext : flag.toList ++ key.toList = f.toList ++ k.toList := by
      rw [← String.toList_append, ← String.toList_append]
      exact congrArg String.toList h
    rcases List.append_eq_append_iff.mp htext with ⟨moved, hflag, hkey⟩ | ⟨moved, hflag, hkey⟩
    · rcases eq_or_movedAcross hflag hkey with ⟨rfl, rfl⟩ | hmoved
      · exact Or.inl ⟨rfl, rfl⟩
      · exact Or.inr (Or.inr hmoved)
    · exact (eq_or_movedAcross hflag hkey).imp_right Or.inl
  · rintro (⟨rfl, rfl⟩ | h | h)
    · rfl
    · exact filterKey_of_movedAcross h
    · exact (filterKey_of_movedAcross h).symm

end UniqueKeysTracker

def TrackerEvent.filterCall? : TrackerEvent → Option FilterCall
  | tracked key flag => some (.add (UniqueKeysTracker.filterKey key flag))
  | known _ _ => none
  | drained _ => none
  | cleared => some .clear

def filterCalls (log : List TrackerEvent) : List FilterCall :=
  (log.filterMap TrackerEvent.filterCall?).reverse

lemma filterCalls_tracked (key flag : String) (log : List TrackerEvent) :
    filterCalls (.tracked key flag :: log) =
      filterCalls log ++ [.add (UniqueKeysTracker.filterKey key flag)] :=
  List.reverse_cons

lemma filterCalls_cleared (log : List TrackerEvent) :
    filterCalls (.cleared :: log) = filterCalls log ++ [.clear] :=
  List.reverse_cons

lemma addedIn_filterCalls_iff {log : List TrackerEvent} {text : String} :
    BloomFilter.AddedIn (filterCalls log) text ↔
      ∃ key flag, .tracked key flag ∈ sinceClear log ∧ UniqueKeysTracker.filterKey key flag = text := by
  induction log with
  | nil => simp [filterCalls, sinceClear, BloomFilter.not_addedIn_nil]
  | cons e rest ih =>
    cases e with
    | tracked key flag =>
      have hs : sinceClear (.tracked key flag :: rest) = .tracked key flag :: sinceClear rest := rfl
      simp only [filterCalls_tracked, BloomFilter.addedIn_append_add, ih, hs, List.mem_cons,
        TrackerEvent.tracked.injEq]
      constructor
      · rintro (⟨k, f, hm, rfl⟩ | rfl)
        · exact ⟨k, f, Or.inr hm, rfl⟩
        · exact ⟨key, flag, Or.inl ⟨rfl, rfl⟩, rfl⟩
      · rintro ⟨k, f, ⟨rfl, rfl⟩ | hm, rfl⟩
        · exact Or.inr rfl
        · exact Or.inl ⟨k, f, hm, rfl⟩
    | known key flag =>
      have hs : sinceClear (.known key flag :: rest) = .known key flag :: sinceClear rest := rfl
      simp only [hs, List.mem_cons, reduceCtorEq, false_or]
      exact ih
    | drained keys =>
      have hs : sinceClear (.drained keys :: rest) = .drained keys :: sinceClear rest := rfl
      simp only [hs, List.mem_cons, reduceCtorEq, false_or]
      exact ih
    | cleared =>
      rw [filterCalls_cleared]
      simp [sinceClear, TrackerEvent.isCleared, BloomFilter.not_addedIn_append_clear]

namespace TrackerRun

def FilterLogged (filter : BloomFilter) (r : TrackerRun) : Prop :=
  r.tracker.filter = filter.after (filterCalls r.log)

variable {filter : BloomFilter} {r : TrackerRun}

lemma FilterLogged.learn (h : r.FilterLogged filter) (key flag : String) :
    (r.learn key flag).FilterLogged filter := by
  change r.tracker.filter.add _ = filter.after (filterCalls (_ :: r.log))
  rw [filterCalls_tracked, BloomFilter.after_append, BloomFilter.after_add, ← h]

lemma FilterLogged.call (h : r.FilterLogged filter) (c : TrackerCall) :
    (r.call c).FilterLogged filter := by
  cases c with
  | track key flag =>
    cases hc : r.tracker.filter.contains (UniqueKeysTracker.filterKey key flag) with
    | true =>
      rw [call_track_of_contains hc]
      exact h
    | false =>
      rw [call_track_of_not_contains hc]
      split
      · exact h.learn key flag
      · exact h.learn key flag
  | popAll => exact h
  | clearFilter =>
    change r.tracker.filter.clear = filter.after (filterCalls (_ :: r.log))
    rw [filterCalls_cleared, BloomFilter.after_append, BloomFilter.after_clear, ← h]
  | setHook hook => exact h

lemma FilterLogged.calls (h : r.FilterLogged filter) (calls : List TrackerCall) :
    (calls.foldl TrackerRun.call r).FilterLogged filter := by
  induction calls generalizing r with
  | nil => exact h
  | cons c rest ih => exact ih (h.call c)

lemma filterLogged_fresh (threshold : Nat) (filter : BloomFilter) :
    FilterLogged filter.clear ⟨.fresh threshold filter, []⟩ := rfl

end TrackerRun

namespace UniqueKeysTracker

/-- Why a pair is known after some events: it is among them, or a pair that is written the same is, or
the texts of other pairs have set all bits of its own. -/
inductive Known (filter : BloomFilter) (earlier : List TrackerEvent) (key flag : String) : Prop
  | tracked (h : .tracked key flag ∈ earlier)
  | moved (k f : String) (h : .tracked k f ∈ earlier)
      (hmoved : MovedAcross key flag k f ∨ MovedAcross k f key flag)
  | falsePositive
      (hnew : ∀ k f, .tracked k f ∈ earlier → filterKey k f ≠ filterKey key flag)
      (hbits : ∀ bit ∈ filter.positions (filterKey key flag),
        ∃ k f, .tracked k f ∈ earlier ∧ bit ∈ filter.positions (filterKey k f))

variable {filter : BloomFilter} {earlier : List TrackerEvent} {key flag : String}

lemma known_iff : Known filter earlier key flag ↔
    ∀ bit ∈ filter.positions (filterKey key flag),
      ∃ k f, .tracked k f ∈ earlier ∧ bit ∈ filter.positions (filterKey k f) := by
  constructor
  · rintro (h | ⟨k, f, h, hmoved⟩ | ⟨-, hbits⟩)
    · exact fun bit hb => ⟨key, flag, h, hb⟩
    · have htext : filterKey key flag = filterKey k f := filterKey_eq_iff.mpr (Or.inr hmoved)
      exact fun bit hb => ⟨k, f, h, htext ▸ hb⟩
    · exact hbits
  · intro hbits
    by_cases hnew : ∀ k f, .tracked k f ∈ earlier → filterKey k f ≠ filterKey key flag
    · exact .falsePositive hnew hbits
    · push Not at hnew
      obtain ⟨k, f, h, htext⟩ := hnew
      rcases filterKey_eq_iff.mp htext.symm with ⟨rfl, rfl⟩ | hmoved
      · exact .tracked h
      · exact .moved k f h hmoved

lemma isNew_track (t : UniqueKeysTracker) (key flag : String) :
    (t.track key flag).1.isNew = !t.filter.contains (filterKey key flag) := by
  cases hc : t.filter.contains (filterKey key flag) with
  | true =>
    rw [track_of_contains _ _ _ hc]
    rfl
  | false =>
    rw [track_of_not_contains _ _ _ hc, runHook]
    split
    · split
      · rfl
      · rfl
      · rfl
    · rfl

/-- A key is answered as known for a flag just when the pair, or another one that is written the same,
was tracked since the filter was cleared, or by an error of the filter. Two pairs are written the same
only if the one flag ends in what the other key begins with. -/
theorem isNew_eq_false_iff (threshold : Nat) (filter : BloomFilter) (calls : List TrackerCall)
    (key flag : String) :
    let r := calls.foldl TrackerRun.call ⟨fresh threshold filter, []⟩
    ((r.tracker.track key flag).1.isNew = false ↔ Known filter (sinceClear r.log) key flag) ∧
      ∀ k f, filterKey key flag = filterKey k f ↔
        (key = k ∧ flag = f) ∨ MovedAcross key flag k f ∨ MovedAcross k f key flag := by
  intro r
  refine ⟨?_, fun k f => filterKey_eq_iff⟩
  have hfilter : r.tracker.filter = filter.clear.after (filterCalls r.log) :=
    (TrackerRun.filterLogged_fresh threshold filter).calls calls
  rw [isNew_track, Bool.not_eq_false', hfilter, BloomFilter.contains_after_iff rfl, known_iff]
  refine forall₂_congr fun bit _ => ?_
  constructor
  · rintro ⟨text, ha, hb⟩
    obtain ⟨k, f, hm, rfl⟩ := addedIn_filterCalls_iff.mp ha
    exact ⟨k, f, hm, hb⟩
  · rintro ⟨k, f, hm, hb⟩
    exact ⟨_, addedIn_filterCalls_iff.mpr ⟨k, f, hm, rfl⟩, hb⟩

lemma run_track_movedAcross (threshold : Nat) (filter : BloomFilter) (h : 0 < filter.numHashes)
    {key flag k f : String} (hmoved : MovedAcross key flag k f) :
    let r := [TrackerCall.track k f].foldl TrackerRun.call ⟨fresh threshold filter, []⟩
    r.log = [.tracked k f] ∧ (r.tracker.track key flag).1.isNew = false := by
  have hclear : filter.clear.contains (filterKey k f) = false := BloomFilter.contains_clear _ _ h
  let start : TrackerRun := ⟨fresh threshold filter, []⟩
  have hfirst : start.call (.track k f) = start.learn k f :=
    TrackerRun.call_track_of_hook_none hclear rfl
  have hrun : [TrackerCall.track k f].foldl TrackerRun.call start = start.call (.track k f) := rfl
  have hcontains : (start.learn k f).tracker.filter.contains (filterKey key flag) = true := by
    rw [filterKey_of_movedAcross hmoved]
    exact BloomFilter.contains_add_self _ _
  rw [hrun, hfirst]
  refine ⟨rfl, ?_⟩
  rw [isNew_track, hcontains]
  rfl

theorem isNew_eq_false_search :
    ¬ ∀ (threshold : Nat) (filter : BloomFilter) (calls : List TrackerCall) (key flag : String),
      let r := calls.foldl TrackerRun.call ⟨fresh threshold filter, []⟩
      (r.tracker.track key flag).1.isNew = false →
        .tracked key flag ∈ sinceClear r.log ∨
          ∀ k f, .tracked k f ∈ sinceClear r.log → filterKey k f ≠ filterKey key flag := by
  intro h
  have hmoved : MovedAcross "a" "search2" "2a" "search" := ⟨"2", by decide, by decide, by decide⟩
  obtain ⟨hlog, hknown⟩ := run_track_movedAcross 100 sampleFilter (by decide) hmoved
  have hreason := h 100 sampleFilter [.track "2a" "search"] "a" "search2" hknown
  rw [hlog] at hreason
  rcases hreason with hm | hnew
  · simp [sinceClear, TrackerEvent.isCleared] at hm
  · exact hnew "2a" "search" List.mem_cons_self (filterKey_of_movedAcross hmoved).symm

end UniqueKeysTracker

end Rollout
