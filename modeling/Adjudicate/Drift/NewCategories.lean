/-
This file proves when the windows and the alerts about new categories are exact.
-/

import Adjudicate.Drift.Windows

namespace Adjudicate.Drift

open Js

section Record

variable (counter : Counter)

/-- Only the name of the prototype accessor is lost. -/
theorem toRecord_perm : (toRecord counter).Perm (counter.delete protoKey).entries := by
  have assigned (entries : Props Nat) (out : Props Nat) :
      entries.foldl (fun out entry => assign out entry.1 entry.2) out =
        (entries.filter fun entry => entry.1 ≠ protoKey).foldl
          (fun out entry => setOwn out entry.1 entry.2) out := by
    induction entries generalizing out with
    | nil => rfl
    | cons entry rest ih =>
        by_cases proto : entry.1 = protoKey
        · rw [List.foldl_cons, List.filter_cons_of_neg (by simpa using proto), assign, if_pos proto]
          exact ih out
        · rw [List.foldl_cons, List.filter_cons_of_pos (by simpa using proto), assign, if_neg proto]
          exact ih _
  have built := defineAll_of_nodup (counter.delete protoKey).distinct
  rw [toRecord, assigned, show counter.entries.filter (fun entry => entry.1 ≠ protoKey) =
    (counter.delete protoKey).entries from rfl, ← defineAll, built]
  exact enumerate_perm _

theorem lookup_toRecord (key : JsString) : (toRecord counter).lookup key =
    if key = protoKey then none else counter.get key := by
  have perm := toRecord_perm counter
  have distinct : (keys (toRecord counter)).Nodup :=
    (keys_perm perm).nodup_iff.mpr (counter.delete protoKey).distinct
  have same : (toRecord counter).lookup key = (counter.delete protoKey).get key := by
    ext count
    rw [lookup_eq_some distinct, perm.mem_iff, InsertionMap.get_eq_some_iff]
  rw [same]
  split
  · next proto =>
      rw [proto]
      exact counter.get_delete_self protoKey
  · next other => exact InsertionMap.get_delete_of_ne other

theorem mem_keys_toRecord {key : JsString} : key ∈ keys (toRecord counter) ↔
    key ≠ protoKey ∧ key ∈ counter.entries.map Prod.fst := by
  rw [← not_iff_not, ← lookup_eq_none, lookup_toRecord]
  split
  · next proto => exact iff_of_true rfl fun inside => inside.1 proto
  · next other =>
      refine InsertionMap.get_eq_none_iff.trans (not_congr ?_)
      exact (and_iff_right other).symm

theorem total_toRecord : total (toRecord counter) + (counter.get protoKey).getD 0 =
    (counter.entries.map Prod.snd).sum := by
  rw [total, ((toRecord_perm counter).map Prod.snd).sum_eq]
  exact counter.sum_delete protoKey

end Record

section Tracking

variable (options : DriftDetectorOptions) (dim : DriftDimension) (records : List JsValue)

/-- These are the keys before the baseline is frozen. -/
def baselineKeys : List JsString :=
  (records.take options.baselineWindow).flatMap (keysForDimension dim)

/-- These are the last keys after the baseline was frozen. -/
def recentKeys : List JsString :=
  ((records.drop options.baselineWindow).flatMap (keysForDimension dim)).rtake options.window

/-- The counters of a dimension stand for the streams of its keys. -/
structure Tracks (st : DimState) : Prop where
  baseline : Folds options.max (baselineKeys options dim records) st.baseline
  recentKeys : st.recentKeys = recentKeys options dim records
  recentCounts : Counts (Drift.recentKeys options dim records) st.recentCounts

variable {options dim records}

theorem add_folds {st : DimState} {seen : List JsString}
    (folds : Folds options.max seen st.baseline) (added : List JsString) :
    Folds options.max (seen ++ added) (added.foldl (fun st key =>
        ({ st with baseline := add st.baseline key options.max } : DimState)) st).baseline ∧
      (added.foldl (fun st key => ({ st with baseline := add st.baseline key options.max } : DimState))
        st).recentKeys = st.recentKeys ∧
      (added.foldl (fun st key => ({ st with baseline := add st.baseline key options.max } : DimState))
        st).recentCounts = st.recentCounts := by
  induction added generalizing st seen with
  | nil => exact ⟨by rwa [List.append_nil], rfl, rfl⟩
  | cons key rest ih =>
      rw [List.append_cons]
      exact ih (folds.add key)

theorem pushRecent_tracks {st : DimState} {stream : List JsString} {window : Nat}
    (queued : st.recentKeys = stream.rtake window) (counts : Counts st.recentKeys st.recentCounts)
    (added : List JsString) :
    (added.foldl (pushRecent window) st).recentKeys = (stream ++ added).rtake window ∧
      Counts (added.foldl (pushRecent window) st).recentKeys
        (added.foldl (pushRecent window) st).recentCounts ∧
      (added.foldl (pushRecent window) st).baseline = st.baseline := by
  induction added generalizing st stream with
  | nil => exact ⟨by rwa [List.append_nil], counts, rfl⟩
  | cons key rest ih =>
      have ⟨left, kept⟩ := @evict_counts _ _ window (counts.push key)
      rw [List.append_cons]
      refine ih (left.trans ?_) ?_
      · rw [queued, rtake_concat]
      · rw [← left] at kept
        exact kept

theorem baselineKeys_concat (record : JsValue) :
    baselineKeys options dim (records ++ [record]) =
      if records.length < options.baselineWindow then
        baselineKeys options dim records ++ keysForDimension dim record
      else baselineKeys options dim records := by
  unfold baselineKeys
  split
  · next early =>
      rw [List.take_of_length_le (by simpa using early), List.take_of_length_le early.le,
        List.flatMap_append, List.flatMap_singleton]
  · next frozen => rw [List.take_append_of_le_length (not_lt.mp frozen)]

theorem recentStream_concat (record : JsValue) :
    ((records ++ [record]).drop options.baselineWindow).flatMap (keysForDimension dim) =
      if records.length < options.baselineWindow then []
      else (records.drop options.baselineWindow).flatMap (keysForDimension dim) ++
        keysForDimension dim record := by
  split
  · next early => rw [List.drop_of_length_le (by simpa using early), List.flatMap_nil]
  · next frozen =>
      rw [List.drop_append_of_le_length (not_lt.mp frozen), List.flatMap_append,
        List.flatMap_singleton]

/-- One observation extends the stream of the window that is open. -/
theorem observe_tracks {st : DimState} (tracks : Tracks options dim records st)
    (record : JsValue) :
    Tracks options dim (records ++ [record]) ((keysForDimension dim record).foldl (fun st key =>
      if records.length < options.baselineWindow then
        { st with baseline := add st.baseline key options.max }
      else pushRecent options.window st key) st) := by
  obtain ⟨baseline, queued, counts⟩ := tracks
  by_cases early : records.length < options.baselineWindow
  · simp only [if_pos early]
    have ⟨folds, sameKeys, sameCounts⟩ := add_folds baseline (keysForDimension dim record)
    have still : recentKeys options dim (records ++ [record]) = recentKeys options dim records := by
      rw [recentKeys, recentStream_concat, if_pos early, recentKeys,
        List.drop_of_length_le early.le, List.flatMap_nil]
    refine ⟨?_, ?_, ?_⟩
    · rw [baselineKeys_concat, if_pos early]
      exact folds
    · rw [sameKeys, still, queued]
    · rw [sameCounts, still]
      exact counts
  · simp only [if_neg early]
    have ⟨window, recounted, sameBaseline⟩ :=
      pushRecent_tracks queued (queued ▸ counts) (keysForDimension dim record)
    have moved : recentKeys options dim (records ++ [record]) =
        ((records.drop options.baselineWindow).flatMap (keysForDimension dim) ++
          keysForDimension dim record).rtake options.window := by
      rw [recentKeys, recentStream_concat, if_neg early]
    refine ⟨?_, window.trans moved.symm, ?_⟩
    · rw [baselineKeys_concat, if_neg early, sameBaseline]
      exact baseline
    · rw [moved, ← window]
      exact recounted

/-- After every sequence of records each listed dimension is tracked once. -/
theorem observed_tracks (options : DriftDetectorOptions) (records : List JsValue) :
    (observed options records).totalObserved = records.length ∧
      (observed options records).dims.map Prod.fst = options.dimensions.eraseDups ∧
      ∀ entry ∈ (observed options records).dims, Tracks options entry.1 records entry.2 := by
  induction records using List.reverseRecOn with
  | nil =>
      refine ⟨rfl, ?_, ?_⟩
      · rw [observed, List.foldl_nil, createDriftDetector, List.map_map]
        exact List.map_id _
      · intro entry entryIn
        obtain ⟨dim, -, rfl⟩ := List.mem_map.mp entryIn
        refine ⟨?_, ?_, ?_⟩
        · rw [baselineKeys, List.take_nil]
          exact folds_nil
        · rw [recentKeys, List.drop_nil, List.flatMap_nil, List.rtake_nil]
        · rw [recentKeys, List.drop_nil, List.flatMap_nil, List.rtake_nil]
          exact counts_nil
  | append_singleton records record ih =>
      obtain ⟨length, listed, tracked⟩ := ih
      rw [observed, List.foldl_append, ← observed, List.foldl_cons, List.foldl_nil,
        DriftDetector.observe, length]
      refine ⟨by rw [List.length_append]; rfl, ?_, ?_⟩
      · rw [List.map_map, ← listed]
        rfl
      · intro entry entryIn
        obtain ⟨earlier, earlierIn, rfl⟩ := List.mem_map.mp entryIn
        exact observe_tracks (tracked earlier earlierIn) record

end Tracking

section Alerts

variable {options : DriftDetectorOptions} {dim : DriftDimension} {st : DimState}

/-- Of the alerts about one key only the first kind reports a new category. -/
theorem newCategory_alert_iff (key : JsString) :
    (∃ alert ∈ (computeDimension options dim st).alerts,
      alert.signal = .newCategory ∧ alert.category = some key) ↔
    0 < total (toRecord st.baseline) ∧ 0 < total (toRecord st.recentCounts) ∧
      key ∈ keys (toRecord st.recentCounts) ∧
      ¬(key ∈ keys (toRecord st.baseline) ∨ key ∈ objectPrototypeNames) := by
  rw [computeDimension]
  dsimp only
  by_cases filled : 0 < total (toRecord st.baseline) ∧ 0 < total (toRecord st.recentCounts)
  · rw [if_pos filled]
    constructor
    · rintro ⟨alert, alertIn, signal, category⟩
      rcases List.mem_append.mp alertIn with shift | perKey
      · split at shift
        · obtain rfl := List.mem_singleton.mp shift
          cases signal
        · cases shift
      · obtain ⟨other, otherIn, raised⟩ := List.mem_flatMap.mp perKey
        rcases List.mem_append.mp raised with fresh | spike
        · rw [newCategoryOf] at fresh
          split at fresh
          · cases fresh
          · next unknown =>
              obtain rfl := List.mem_singleton.mp fresh
              obtain rfl := Option.some.inj category
              exact ⟨filled.1, filled.2, (mem_sortBy id).mp otherIn, unknown⟩
        · rw [spikeOf] at spike
          split at spike
          · obtain rfl := List.mem_singleton.mp spike
            cases signal
          · cases spike
    · rintro ⟨-, -, recentIn, unknown⟩
      have raised : ∃ alert ∈ newCategoryOf options dim (toRecord st.baseline)
          (toRecord st.recentCounts) key,
          alert.signal = .newCategory ∧ alert.category = some key := by
        rw [newCategoryOf, if_neg unknown]
        exact ⟨_, List.mem_singleton_self _, rfl, rfl⟩
      obtain ⟨alert, alertIn, isNew⟩ := raised
      exact ⟨alert, List.mem_append_right _ (List.mem_flatMap.mpr
        ⟨key, (mem_sortBy id).mpr recentIn, List.mem_append_left _ alertIn⟩), isNew⟩
  · rw [if_neg filled]
    refine iff_of_false ?_ fun claimed => filled ⟨claimed.1, claimed.2.1⟩
    rintro ⟨alert, alertIn, -⟩
    cases alertIn

theorem computeDimension_dimension :
    ∀ alert ∈ (computeDimension options dim st).alerts, alert.dimension = dim := by
  intro alert alertIn
  rw [computeDimension] at alertIn
  split at alertIn
  · rcases List.mem_append.mp alertIn with shift | perKey
    · split at shift
      · exact List.mem_singleton.mp shift ▸ rfl
      · cases shift
    · obtain ⟨key, -, raised⟩ := List.mem_flatMap.mp perKey
      rcases List.mem_append.mp raised with fresh | spike
      · rw [newCategoryOf] at fresh
        split at fresh
        · cases fresh
        · exact List.mem_singleton.mp fresh ▸ rfl
      · rw [spikeOf] at spike
        split at spike
        · exact List.mem_singleton.mp spike ▸ rfl
        · cases spike
  · cases alertIn

theorem mem_keys_recent {queue : List JsString} {counter : Counter} (counts : Counts queue counter)
    (kept : protoKey ∉ queue) (key : JsString) : key ∈ keys (toRecord counter) ↔ key ∈ queue := by
  have counted : key ∈ counter.entries.map Prod.fst ↔ key ∈ queue := by
    rw [← not_iff_not, ← InsertionMap.get_eq_none_iff, counts key, ← List.count_eq_zero]
    simp
  rw [mem_keys_toRecord, counted]
  exact and_iff_right_of_imp fun inside same => kept (same ▸ inside)

theorem total_recent_pos_iff {queue : List JsString} {counter : Counter}
    (counts : Counts queue counter) (kept : protoKey ∉ queue) :
    0 < total (toRecord counter) ↔ queue ≠ [] := by
  rw [total, List.sum_pos_iff_exists_pos_nat]
  constructor
  · rintro ⟨count, countIn, -⟩
    obtain ⟨entry, entryIn, rfl⟩ := List.mem_map.mp countIn
    exact List.ne_nil_of_mem ((mem_keys_recent counts kept entry.1).mp (mem_keys_of_mem entryIn))
  · intro filled
    obtain ⟨key, keyIn⟩ := List.exists_mem_of_ne_nil queue filled
    have found : (toRecord counter).lookup key = some (queue.count key) := by
      have other : key ≠ protoKey := fun same => kept (same ▸ keyIn)
      rw [lookup_toRecord, if_neg other, counts key, if_neg (List.count_pos_iff.mpr keyIn).ne']
    exact ⟨_, List.mem_map.mpr ⟨_, mem_of_lookup found, rfl⟩, List.count_pos_iff.mpr keyIn⟩

theorem protoKey_known_iff {max : Nat} {seen : List JsString} {counter : Counter}
    (folds : Folds max seen counter) :
    protoKey ∈ counter.entries.map Prod.fst ↔ protoKey ∈ admitted max seen := by
  rw [folds.known]
  exact or_iff_left fun bucket => absurd bucket.1 (by decide)

/-- The sum over the record is right exactly when the lost name has no counter. -/
theorem total_baseline_iff {max : Nat} {seen : List JsString} {counter : Counter}
    (folds : Folds max seen counter) :
    total (toRecord counter) = seen.length ↔ protoKey ∉ admitted max seen := by
  have whole := total_toRecord counter
  rw [folds.sum] at whole
  rw [← protoKey_known_iff folds, ← InsertionMap.get_eq_none_iff]
  cases lost : counter.get protoKey with
  | none =>
      rw [lost, Option.getD_none, Nat.add_zero] at whole
      exact iff_of_true whole rfl
  | some count =>
      have some := folds.positive protoKey count lost
      rw [lost, Option.getD_some] at whole
      exact iff_of_false (by omega) nofun

/-- Without the lost name the counters tell which windows are filled. -/
theorem newCategory_iff {records : List JsValue} (tracks : Tracks options dim records st)
    (baselineKept : protoKey ∉ admitted options.max (baselineKeys options dim records))
    (recentKept : protoKey ∉ recentKeys options dim records) (key : JsString) :
    (∃ alert ∈ (computeDimension options dim st).alerts,
      alert.signal = .newCategory ∧ alert.category = some key) ↔
    baselineKeys options dim records ≠ [] ∧ recentKeys options dim records ≠ [] ∧
      key ∈ recentKeys options dim records ∧
      ¬((key ∈ admitted options.max (baselineKeys options dim records) ∨
        key = overflow ∧ options.max < (baselineKeys options dim records).eraseDups.length) ∨
        key ∈ objectPrototypeNames) := by
  obtain ⟨folds, -, counts⟩ := tracks
  rw [newCategory_alert_iff, (total_baseline_iff folds).mpr baselineKept, List.length_pos_iff,
    total_recent_pos_iff counts recentKept, mem_keys_recent counts recentKept]
  refine and_congr_right fun _ => and_congr_right fun _ => and_congr_right fun keyIn => ?_
  have notProto : key ≠ protoKey := fun same => recentKept (same ▸ keyIn)
  rw [mem_keys_toRecord, and_iff_right notProto, folds.known]

end Alerts

/-- The snapshots and the alerts of a dimension after a sequence of records are exact. -/
structure Exact (options : DriftDetectorOptions) (records : List JsValue) (dim : DriftDimension) :
    Prop where
  recent : ∀ snap ∈ ((observed options records).snapshot options).dimensions,
    snap.dimension = dim → ∀ key, snap.recent.lookup key =
      if (recentKeys options dim records).count key = 0 then none
      else some ((recentKeys options dim records).count key)
  baseline : ∀ snap ∈ ((observed options records).snapshot options).dimensions,
    snap.dimension = dim → total snap.baseline = (baselineKeys options dim records).length
  newCategory : ∀ key, (∃ alert ∈ (observed options records).evaluate options,
      alert.dimension = dim ∧ alert.signal = .newCategory ∧ alert.category = some key) ↔
    baselineKeys options dim records ≠ [] ∧ recentKeys options dim records ≠ [] ∧
      key ∈ recentKeys options dim records ∧ key ∉ baselineKeys options dim records

/-- The names that the windows lose or mistake do not occur where they would. -/
structure Distinguishes (max : Nat) (baseline recent : List JsString) : Prop where
  baselineKept : protoKey ∉ admitted max baseline
  recentKept : protoKey ∉ recent
  old : baseline ≠ [] → ∀ key ∈ recent, key ∈ baseline →
    key ∈ admitted max baseline ∨ key = overflow ∨ key ∈ objectPrototypeNames
  fresh : baseline ≠ [] → ∀ key ∈ recent, key ∉ baseline →
    key ∉ objectPrototypeNames ∧ (key = overflow → baseline.eraseDups.length ≤ max)

theorem distinguishes_iff {max : Nat} {baseline recent : List JsString}
    (baselineKept : protoKey ∉ admitted max baseline) (recentKept : protoKey ∉ recent) :
    Distinguishes max baseline recent ↔ ∀ key, baseline ≠ [] ∧ recent ≠ [] ∧ key ∈ recent ∧
        ¬((key ∈ admitted max baseline ∨ key = overflow ∧ max < baseline.eraseDups.length) ∨
          key ∈ objectPrototypeNames) ↔
      baseline ≠ [] ∧ recent ≠ [] ∧ key ∈ recent ∧ key ∉ baseline := by
  constructor
  · rintro ⟨-, -, old, fresh⟩ key
    refine and_congr_right fun filled => and_congr_right fun _ => and_congr_right fun keyIn => ?_
    refine not_congr ⟨?_, ?_⟩
    · intro known
      by_contra new
      obtain ⟨notInherited, notBucket⟩ := fresh filled key keyIn new
      rcases known with (inside | ⟨bucket, overflowed⟩) | inherited
      · exact new (mem_of_admitted inside)
      · exact absurd overflowed (not_lt.mpr (notBucket bucket))
      · exact notInherited inherited
    · intro seen
      rcases old filled key keyIn seen with inside | rfl | inherited
      · exact .inl (.inl inside)
      · by_cases inside : overflow ∈ admitted max baseline
        · exact .inl (.inl inside)
        · exact .inl (.inr ⟨rfl, overflows_of_mem seen inside⟩)
      · exact .inr inherited
  · intro exact
    have known (filled : baseline ≠ []) (key : JsString) (keyIn : key ∈ recent) :
        (key ∈ admitted max baseline ∨ key = overflow ∧ max < baseline.eraseDups.length) ∨
          key ∈ objectPrototypeNames ↔ key ∈ baseline := by
      have same := exact key
      rw [and_iff_right filled, and_iff_right filled, and_iff_right (List.ne_nil_of_mem keyIn),
        and_iff_right (List.ne_nil_of_mem keyIn), and_iff_right keyIn, and_iff_right keyIn] at same
      exact not_iff_not.mp same
    refine ⟨baselineKept, recentKept, ?_, ?_⟩
    · intro filled key keyIn seen
      rcases (known filled key keyIn).mpr seen with (inside | ⟨bucket, -⟩) | inherited
      · exact .inl inside
      · exact .inr (.inl bucket)
      · exact .inr (.inr inherited)
    · intro filled key keyIn new
      have unknown := (known filled key keyIn).not.mpr new
      rw [not_or, not_or, not_and, not_lt] at unknown
      exact ⟨unknown.2, unknown.1.2⟩

/-- The alerts that are reported for a dimension are those of its counters. -/
theorem evaluate_newCategory_iff {records : List JsValue} {options : DriftDetectorOptions}
    {dim : DriftDimension} (listed : dim ∈ options.dimensions)
    (baselineKept : protoKey ∉ admitted options.max (baselineKeys options dim records))
    (recentKept : protoKey ∉ recentKeys options dim records) (key : JsString) :
    (∃ alert ∈ (observed options records).evaluate options,
      alert.dimension = dim ∧ alert.signal = .newCategory ∧ alert.category = some key) ↔
    baselineKeys options dim records ≠ [] ∧ recentKeys options dim records ≠ [] ∧
      key ∈ recentKeys options dim records ∧
      ¬((key ∈ admitted options.max (baselineKeys options dim records) ∨
        key = overflow ∧ options.max < (baselineKeys options dim records).eraseDups.length) ∨
        key ∈ objectPrototypeNames) := by
  obtain ⟨-, dims, tracked⟩ := observed_tracks options records
  constructor
  · rintro ⟨alert, alertIn, same, isNew⟩
    obtain ⟨⟨other, st⟩, entryIn, raised⟩ := List.mem_flatMap.mp alertIn
    obtain rfl : other = dim := (computeDimension_dimension alert raised).symm.trans same
    exact (newCategory_iff (tracked _ entryIn) baselineKept recentKept key).mp
      ⟨alert, raised, isNew⟩
  · intro claimed
    have there : dim ∈ (observed options records).dims.map Prod.fst :=
      dims ▸ List.mem_eraseDups.mpr listed
    obtain ⟨⟨_, st⟩, entryIn, rfl⟩ := List.mem_map.mp there
    obtain ⟨alert, raised, isNew⟩ :=
      (newCategory_iff (tracked _ entryIn) baselineKept recentKept key).mpr claimed
    exact ⟨alert, List.mem_flatMap.mpr ⟨_, entryIn, raised⟩,
      computeDimension_dimension alert raised, isNew⟩

/-- The detector is exact exactly when no key is folded, inherited or lost where it matters. -/
theorem observed_exact_iff (options : DriftDetectorOptions) (records : List JsValue)
    {dim : DriftDimension} (listed : dim ∈ options.dimensions) :
    Exact options records dim ↔ Distinguishes options.max (baselineKeys options dim records)
      (recentKeys options dim records) := by
  obtain ⟨-, dims, tracked⟩ := observed_tracks options records
  constructor
  · rintro ⟨recent, baseline, newCategory⟩
    have there : dim ∈ (observed options records).dims.map Prod.fst :=
      dims ▸ List.mem_eraseDups.mpr listed
    obtain ⟨⟨other, st⟩, entryIn, same⟩ := List.mem_map.mp there
    obtain rfl : dim = other := same.symm
    have shown := List.mem_map_of_mem (f := fun entry => computeDimension options entry.1 entry.2)
      entryIn
    have baselineKept := (total_baseline_iff (tracked _ entryIn).baseline).mp
      (baseline _ shown rfl)
    have recentKept : protoKey ∉ recentKeys options dim records := by
      have lost := recent _ shown rfl protoKey
      have read : (toRecord st.recentCounts).lookup protoKey = none := by
        rw [lookup_toRecord, if_pos rfl]
      intro inside
      rw [if_neg (List.count_pos_iff.mpr inside).ne'] at lost
      cases read.symm.trans lost
    exact (distinguishes_iff baselineKept recentKept).mpr fun key =>
      (evaluate_newCategory_iff listed baselineKept recentKept key).symm.trans (newCategory key)
  · intro distinguishes
    have baselineKept := distinguishes.baselineKept
    have recentKept := distinguishes.recentKept
    refine ⟨?_, ?_, fun key => ?_⟩
    · rintro snap snapIn rfl key
      obtain ⟨⟨other, st⟩, entryIn, rfl⟩ := List.mem_map.mp snapIn
      have counts := (tracked _ entryIn).recentCounts key
      refine (lookup_toRecord st.recentCounts key).trans ?_
      split
      · next proto =>
          rw [if_pos]
          exact List.count_eq_zero_of_not_mem (proto ▸ recentKept)
      · exact counts
    · rintro snap snapIn rfl
      obtain ⟨⟨other, st⟩, entryIn, rfl⟩ := List.mem_map.mp snapIn
      exact (total_baseline_iff (tracked _ entryIn).baseline).mpr baselineKept
    · exact (evaluate_newCategory_iff listed baselineKept recentKept key).trans
        ((distinguishes_iff baselineKept recentKept).mp distinguishes key)

def sampleRecord (kind : JsString) : JsValue :=
  .obj [("envelope", .obj [("kind", .str kind)])]

def sampleOptions (max : Nat) : DriftDetectorOptions where
  baselineWindow := 2
  recentWindow := some 2
  alertThreshold := 1
  dimensions := [.intentKind]
  maxCategoriesPerDimension := some max

theorem observed_exact_spike :
    Exact (sampleOptions 8) [sampleRecord "pay", sampleRecord "pay", sampleRecord "refund"]
      .intentKind :=
  (observed_exact_iff _ _ (by decide)).mpr
    ⟨by decide, by decide, fun _ => by decide, fun _ => by decide⟩

/-- A category of the baseline beyond the cap is reported as new. -/
theorem foldedCategory_reported : ¬∀ (options : DriftDetectorOptions) (records : List JsValue),
    ∀ dim ∈ options.dimensions, Exact options records dim := by
  intro always
  have exact := always (sampleOptions 1)
    [sampleRecord "pay", sampleRecord "refund", sampleRecord "refund"] .intentKind (by decide)
  have reported := (exact.newCategory "refund").mp
    ((evaluate_newCategory_iff (by decide) (by decide) (by decide) "refund").mpr
      ⟨by decide, by decide, by decide, by decide⟩)
  exact reported.2.2.2 (by decide)

end Adjudicate.Drift
