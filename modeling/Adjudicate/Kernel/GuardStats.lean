/-
This file models the guard statistics in memory and in the database and compares their answers.
-/

import Adjudicate.Core.Decision
import Adjudicate.Js.Days
import Adjudicate.Js.Tally

namespace Adjudicate.Kernel

open Js Adjudicate.Core

inductive GuardPhase where
  | state
  | taint
  | auth
  | business
deriving DecidableEq

def GuardPhase.text : GuardPhase → JsString
  | .state => "state"
  | .taint => "taint"
  | .auth => "auth"
  | .business => "business"

/-- These are the fields of a learning event that the statistics read. -/
structure LearningEvent where
  intentKind : JsString
  decisionKind : DecisionKind
  guardName : Option JsString
  guardPhase : Option GuardPhase
  «at» : JsString

/-- A bucket is what its label counts. -/
structure GuardLabel where
  guardName : JsString
  guardPhase : GuardPhase
  decisionKind : DecisionKind
  day : JsString
deriving DecidableEq

structure GuardFireBucket extends GuardLabel where
  count : Nat

/-- This is a bucket in memory without its count. -/
structure Firing extends GuardLabel where
  packId : Option JsString
deriving DecidableEq

/-- This is the primary key of a row. -/
structure StatKey extends GuardLabel where
  packId : JsString
deriving DecidableEq

structure GuardFireStats where
  memo : List (Firing × Nat)
  rows : List (StatKey × Nat)

def dayKey (iso : JsString) : JsString := iso.take 10

def bar : CodeUnit := 0x7C

def joinedKey (key : StatKey) : JsString :=
  key.guardName ++ bar :: (key.guardPhase.text ++ bar :: (key.decisionKind.text ++
    bar :: (key.day ++ bar :: key.packId)))

/-- The store writes the empty text for a missing pack. -/
def Firing.statKey (firing : Firing) : StatKey :=
  { firing with packId := firing.packId.getD [] }

def makeMemoKey (firing : Firing) : JsString := joinedKey firing.statKey

/-- An event without the name and the phase of a guard is not counted. -/
def firing (resolvePackId : Option (JsString → Option JsString)) (event : LearningEvent) :
    Option Firing :=
  match event.guardName, event.guardPhase with
  | some guardName, some guardPhase =>
      if guardName = [] then none
      else some {
        guardName
        guardPhase
        decisionKind := event.decisionKind
        day := dayKey event.at
        packId := resolvePackId.bind (· event.intentKind) }
  | _, _ => none

/-- The first bucket of the oldest day leaves. -/
def dropOldest : List (Firing × Nat) → List (Firing × Nat)
  | [] => []
  | first :: rest =>
      let oldest := rest.foldl
        (fun oldest bucket => if bucket.1.day < oldest.1.day then bucket else oldest) first
      (first :: rest).eraseP fun bucket => makeMemoKey bucket.1 = makeMemoKey oldest.1

def compact (maxBuckets : Nat) (memo : List (Firing × Nat)) : List (Firing × Nat) :=
  dropOldest^[memo.length - maxBuckets] memo

/-- The store is written the single event, which its upsert adds to the row. -/
def recordOutcome (resolvePackId : Option (JsString → Option JsString)) (maxBuckets : Nat)
    (stats : GuardFireStats) (event : LearningEvent) : GuardFireStats :=
  match firing resolvePackId event with
  | none => stats
  | some bucket =>
      let memo := tally makeMemoKey stats.memo bucket
      { memo := if stats.memo.any (makeMemoKey ·.1 = makeMemoKey bucket) then memo
          else compact maxBuckets memo
        rows := tally id stats.rows bucket.statKey }

def bucketOf {T : Type} (label : T → GuardLabel) (row : T × Nat) : GuardFireBucket :=
  { label row.1 with count := row.2 }

/-- Only a pack that is not empty filters. -/
def query (stats : GuardFireStats) (since : JsString) (packId : Option JsString) :
    List GuardFireBucket :=
  ((stats.memo.filter fun row => dayKey since ≤ row.1.day).filter fun row =>
    (packId.filter (· ≠ [])).all fun wanted => row.1.packId = some wanted).map
      (bucketOf Firing.toGuardLabel)

/-- The database compares the days as dates. -/
def readSince (stats : GuardFireStats) (since : JsString) (packId : Option JsString) :
    List GuardFireBucket :=
  (stats.rows.filter fun row => dateOf (dayKey since) ≤ dateOf row.1.day ∧
    packId.all fun wanted => row.1.packId = wanted).map (bucketOf StatKey.toGuardLabel)

/-- The store answers for the statistics. -/
def queryAsync (stats : GuardFireStats) (since : JsString) (packId : Option JsString) :
    List GuardFireBucket :=
  readSince stats since packId

def handled (resolvePackId : Option (JsString → Option JsString)) (maxBuckets : Nat)
    (events : List LearningEvent) : GuardFireStats :=
  events.foldl (recordOutcome resolvePackId maxBuckets) ⟨[], []⟩

def firings (resolvePackId : Option (JsString → Option JsString)) (events : List LearningEvent) :
    List Firing :=
  events.filterMap (firing resolvePackId)

/-- All the buckets fit into memory. -/
def Unevicted (resolvePackId : Option (JsString → Option JsString)) (maxBuckets : Nat)
    (events : List LearningEvent) : Prop :=
  ((firings resolvePackId events).foldl (tally makeMemoKey) []).length ≤ maxBuckets

instance (resolvePackId : Option (JsString → Option JsString)) (maxBuckets : Nat)
    (events : List LearningEvent) : Decidable (Unevicted resolvePackId maxBuckets events) :=
  inferInstanceAs (Decidable (_ ≤ _))

section Handled

variable {resolvePackId : Option (JsString → Option JsString)} {maxBuckets : Nat}
  {events : List LearningEvent}

/-- Memory and database are tallies of the same firings under different keys. -/
theorem handled_eq (unevicted : Unevicted resolvePackId maxBuckets events) :
    handled resolvePackId maxBuckets events =
      ⟨(firings resolvePackId events).foldl (tally makeMemoKey) [],
        ((firings resolvePackId events).map Firing.statKey).foldl (tally id) []⟩ := by
  induction events using List.reverseRecOn with
  | nil => rfl
  | append_singleton events event ih =>
      cases fires : firing resolvePackId event with
      | none =>
          have same : firings resolvePackId (events ++ [event]) = firings resolvePackId events := by
            simp [firings, fires]
          rw [Unevicted, same] at unevicted
          rw [same, ← ih unevicted, handled, List.foldl_append, List.foldl_cons, List.foldl_nil,
            recordOutcome, fires]
          rfl
      | some bucket =>
          have more : firings resolvePackId (events ++ [event]) =
              firings resolvePackId events ++ [bucket] := by
            simp [firings, fires]
          rw [Unevicted, more, List.foldl_append] at unevicted
          have before := ih ((length_le_tally _ _).trans unevicted)
          have whole (memo : List (Firing × Nat)) (fits : memo.length ≤ maxBuckets) :
              compact maxBuckets memo = memo := by
            rw [compact, Nat.sub_eq_zero_of_le fits]
            rfl
          rw [handled] at before ⊢
          rw [more, List.foldl_append, before, List.foldl_cons, List.foldl_nil, recordOutcome, fires,
            List.foldl_append, List.map_append, List.foldl_append]
          dsimp only
          rw [whole (tally makeMemoKey _ bucket) unevicted, ite_self]
          rfl

end Handled

def countOf (buckets : List GuardFireBucket) (label : GuardLabel) : Nat :=
  ((buckets.filter (·.toGuardLabel = label)).map (·.count)).sum

def total (buckets : List GuardFireBucket) : Nat := (buckets.map (·.count)).sum

theorem countOf_bucketOf {T : Type} (labelOf : T → GuardLabel) (selected : T → Bool)
    (rows : List (T × Nat)) (label : GuardLabel) :
    countOf ((rows.filter (selected ·.1)).map (bucketOf labelOf)) label =
      countIn (fun entry => labelOf entry = label && selected entry) rows := by
  rw [countOf, countIn, List.filter_map, List.map_map, List.filter_filter]
  rfl

theorem total_bucketOf {T : Type} (labelOf : T → GuardLabel) (selected : T → Bool)
    (rows : List (T × Nat)) :
    total ((rows.filter (selected ·.1)).map (bucketOf labelOf)) = countIn selected rows := by
  rw [total, countIn, List.map_map]
  rfl

/-- A label has a bucket exactly if it has a positive count. -/
theorem exists_bucket_iff {buckets : List GuardFireBucket}
    (positive : ∀ bucket ∈ buckets, 0 < bucket.count) (label : GuardLabel) :
    (∃ bucket ∈ buckets, bucket.toGuardLabel = label) ↔ 0 < countOf buckets label := by
  induction buckets with
  | nil => simp [countOf]
  | cons bucket rest ih =>
      obtain ⟨own, others⟩ := List.forall_mem_cons.mp positive
      have later := ih others
      simp only [List.mem_cons, exists_eq_or_imp, later, countOf, List.filter_cons]
      by_cases same : bucket.toGuardLabel = label
      · simp only [same, decide_true, if_true, List.map_cons, List.sum_cons, true_or, true_iff]
        omega
      · simp [same]

/-- Both answers have the same buckets with the same summed counts. -/
structure Concord (stats : GuardFireStats) (since : JsString) (packId : Option JsString) : Prop where
  buckets : ∀ label, (∃ bucket ∈ query stats since packId, bucket.toGuardLabel = label) ↔
    ∃ bucket ∈ queryAsync stats since packId, bucket.toGuardLabel = label
  counts : ∀ label, countOf (query stats since packId) label =
    countOf (queryAsync stats since packId) label

/-- The event names a guard and its phase. -/
def LearningEvent.named (event : LearningEvent) : Bool :=
  event.guardName.any (· ≠ []) && event.guardPhase.isSome

/-- Memory and database agree for the allowed filters, and count every named event once. -/
def Agreement (resolvePackId : Option (JsString → Option JsString)) (maxBuckets : Nat)
    (events : List LearningEvent) (allowed : Option JsString → Prop) : Prop :=
  let stats := handled resolvePackId maxBuckets events
  ∀ since, IsDay (dayKey since) → (∀ packId, allowed packId → Concord stats since packId) ∧
    let window := events.countP fun event => event.named && dayKey since ≤ dayKey event.at
    total (query stats since none) = window ∧ total (queryAsync stats since none) = window

/-- Two firings are joined to one key only if they belong to one row. -/
def Uncollided (firings : List Firing) : Prop :=
  ∀ first ∈ firings, ∀ second ∈ firings, makeMemoKey first = makeMemoKey second →
    first.statKey = second.statKey

instance (firings : List Firing) : Decidable (Uncollided firings) :=
  inferInstanceAs (Decidable (∀ first ∈ firings, ∀ second ∈ firings, _ → _))

section Agreement

variable {resolvePackId : Option (JsString → Option JsString)} {maxBuckets : Nat}
  {events : List LearningEvent}

theorem mem_firings {fired : Firing} (member : fired ∈ firings resolvePackId events) :
    ∃ event ∈ events, firing resolvePackId event = some fired :=
  List.mem_filterMap.mp member

theorem firing_day {event : LearningEvent} {fired : Firing}
    (fires : firing resolvePackId event = some fired) : fired.day = dayKey event.at := by
  unfold firing at fires
  split at fires
  · split at fires
    · cases fires
    · cases fires
      rfl
  · cases fires

theorem isSome_firing (event : LearningEvent) :
    (firing resolvePackId event).isSome = event.named := by
  unfold firing LearningEvent.named
  cases event.guardName with
  | none => rfl
  | some guardName =>
      cases event.guardPhase with
      | none => exact (Bool.and_false _).symm
      | some guardPhase =>
          by_cases empty : guardName = []
          · simp [empty]
          · simp [empty]

theorem dated_firings (dated : ∀ event ∈ events, IsDay (dayKey event.at)) :
    ∀ fired ∈ firings resolvePackId events, IsDay fired.day := by
  intro fired member
  obtain ⟨event, inside, fires⟩ := mem_firings member
  rw [firing_day fires]
  exact dated event inside

/-- The firings in a window come one by one from its named events. -/
theorem countP_firings (since : JsString) :
    (firings resolvePackId events).countP (fun fired => dayKey since ≤ fired.day) =
      events.countP fun event => event.named && dayKey since ≤ dayKey event.at := by
  rw [firings, List.countP_filterMap]
  apply List.countP_congr
  intro event _
  rw [← @isSome_firing resolvePackId event]
  cases fires : firing resolvePackId event with
  | none => simp
  | some fired => simp [firing_day fires]

theorem isDay_length {text : JsString} (isDay : IsDay text) : text.length = 10 := by
  obtain ⟨year, month, day, rfl, years, months, days, -⟩ := isDay
  simp [years, months, days]

theorem dayKey_of_isDay {text : JsString} (isDay : IsDay text) : dayKey text = text :=
  List.take_of_length_le (isDay_length isDay).le

/-- The rows count the firings of their keys. -/
theorem countIn_rows (entries : List Firing) (selected : StatKey → Bool) :
    countIn selected ((entries.map Firing.statKey).foldl (tally id) []) =
      entries.countP fun fired => selected fired.statKey := by
  have counted := @countIn_foldl _ _ _ id selected (entries.map Firing.statKey)
    fun first _ second _ same => congrArg selected same
  rw [counted, List.countP_map]
  rfl

/-- Without collisions the buckets in memory do the same. -/
theorem countIn_memo {entries : List Firing} (uncollided : Uncollided entries)
    (selected : StatKey → Bool) :
    countIn (fun fired : Firing => selected fired.statKey) (entries.foldl (tally makeMemoKey) []) =
      entries.countP fun fired => selected fired.statKey := by
  refine countIn_foldl _ ?_
  intro first firstIn second secondIn same
  rw [uncollided first firstIn second secondIn same]

theorem positive_query (unevicted : Unevicted resolvePackId maxBuckets events) (since : JsString)
    (packId : Option JsString) :
    ∀ bucket ∈ query (handled resolvePackId maxBuckets events) since packId, 0 < bucket.count := by
  intro bucket member
  rw [query, handled_eq unevicted, List.filter_filter] at member
  obtain ⟨row, inside, rfl⟩ := List.mem_map.mp member
  have known := (List.mem_filter.mp inside).1
  have tallies : Tallies makeMemoKey (firings resolvePackId events) _ := tallies_foldl _
  show 0 < row.2
  rw [tallies.counts row known, List.countP_pos_iff]
  exact ⟨row.1, tallies.stems row known, decide_eq_true rfl⟩

theorem positive_readSince (unevicted : Unevicted resolvePackId maxBuckets events)
    (since : JsString) (packId : Option JsString) :
    ∀ bucket ∈ readSince (handled resolvePackId maxBuckets events) since packId,
      0 < bucket.count := by
  intro bucket member
  rw [readSince, handled_eq unevicted] at member
  obtain ⟨row, inside, rfl⟩ := List.mem_map.mp member
  have known := (List.mem_filter.mp inside).1
  have tallies : Tallies id ((firings resolvePackId events).map Firing.statKey) _ := tallies_foldl _
  show 0 < row.2
  rw [tallies.counts row known, List.countP_pos_iff]
  exact ⟨row.1, tallies.stems row known, decide_eq_true rfl⟩

/-- Equal counts for every label are concord. -/
theorem concord_of_counts (unevicted : Unevicted resolvePackId maxBuckets events) {since : JsString}
    {packId : Option JsString}
    (counts : ∀ label, countOf (query (handled resolvePackId maxBuckets events) since packId) label =
      countOf (queryAsync (handled resolvePackId maxBuckets events) since packId) label) :
    Concord (handled resolvePackId maxBuckets events) since packId where
  buckets label := by
    rw [exists_bucket_iff (positive_query unevicted since packId), counts label, queryAsync,
      exists_bucket_iff (positive_readSince unevicted since packId)]
  counts := counts

/-- The database counts the firings of a label in the window. -/
theorem countOf_readSince (dated : ∀ event ∈ events, IsDay (dayKey event.at))
    (unevicted : Unevicted resolvePackId maxBuckets events) {since : JsString}
    (isDay : IsDay (dayKey since)) (packId : Option JsString) (label : GuardLabel) :
    countOf (queryAsync (handled resolvePackId maxBuckets events) since packId) label =
      (firings resolvePackId events).countP fun fired => fired.toGuardLabel = label &&
        (dayKey since ≤ fired.day && packId.all fun wanted => fired.packId.getD [] = wanted) := by
  rw [queryAsync, readSince, handled_eq unevicted]
  have counted := countOf_bucketOf StatKey.toGuardLabel (fun key =>
    dateOf (dayKey since) ≤ dateOf key.day ∧ packId.all fun wanted => key.packId = wanted)
    (((firings resolvePackId events).map Firing.statKey).foldl (tally id) []) label
  rw [counted, countIn_rows]
  apply List.countP_congr
  intro fired member
  have compared := isDay_le_iff isDay (dated_firings dated fired member)
  simp only [Bool.and_eq_true, decide_eq_true_eq, compared]
  rfl

/-- A filter that is absent or not empty reads a missing pack as the empty one. -/
theorem filter_packId {packId : Option JsString} (nonempty : packId ≠ some [])
    (stored : Option JsString) :
    ((packId.filter (· ≠ [])).all fun wanted => decide (stored = some wanted)) =
      packId.all fun wanted => decide (stored.getD [] = wanted) := by
  cases packId with
  | none => rfl
  | some wanted =>
      have kept : wanted ≠ [] := fun empty => nonempty (congrArg some empty)
      rw [Option.filter_some, if_pos (by simpa using kept), Option.all_some, Option.all_some]
      cases stored with
      | none => simp [kept.symm]
      | some pack => simp

/-- Memory counts the buckets that its filter keeps. -/
theorem countOf_query (unevicted : Unevicted resolvePackId maxBuckets events) {since : JsString}
    {packId : Option JsString} (nonempty : packId ≠ some []) (label : GuardLabel) :
    countOf (query (handled resolvePackId maxBuckets events) since packId) label =
      countIn (fun fired : Firing => fired.statKey.toGuardLabel = label &&
        (dayKey since ≤ fired.statKey.day &&
          packId.all fun wanted => fired.statKey.packId = wanted))
        ((firings resolvePackId events).foldl (tally makeMemoKey) []) := by
  rw [query, handled_eq unevicted, List.filter_filter]
  have counted := countOf_bucketOf Firing.toGuardLabel (fun fired =>
    (packId.filter (· ≠ [])).all (fun wanted => decide (fired.packId = some wanted)) &&
      decide (dayKey since ≤ fired.day))
    ((firings resolvePackId events).foldl (tally makeMemoKey) []) label
  rw [counted]
  congr 1
  funext fired
  rw [filter_packId nonempty, Bool.and_comm (Option.all _ _)]
  rfl

/-- Without collisions both sides count the same firings. -/
theorem concord_of_uncollided (dated : ∀ event ∈ events, IsDay (dayKey event.at))
    (unevicted : Unevicted resolvePackId maxBuckets events)
    (uncollided : Uncollided (firings resolvePackId events)) {since : JsString}
    (isDay : IsDay (dayKey since)) {packId : Option JsString} (nonempty : packId ≠ some []) :
    Concord (handled resolvePackId maxBuckets events) since packId := by
  refine concord_of_counts unevicted fun label => ?_
  have counted := countIn_memo uncollided fun key => key.toGuardLabel = label &&
    (dayKey since ≤ key.day && packId.all fun wanted => key.packId = wanted)
  rw [countOf_query unevicted nonempty, countOf_readSince dated unevicted isDay]
  exact counted

/-- The unfiltered buckets in memory add up to the named events of the window. -/
theorem total_query (unevicted : Unevicted resolvePackId maxBuckets events)
    (uncollided : Uncollided (firings resolvePackId events)) (since : JsString) :
    total (query (handled resolvePackId maxBuckets events) since none) =
      events.countP fun event => event.named && dayKey since ≤ dayKey event.at := by
  have counted := countIn_memo uncollided fun key => dayKey since ≤ key.day
  rw [query, handled_eq unevicted, List.filter_filter]
  have summed := total_bucketOf Firing.toGuardLabel (fun fired =>
    (Option.filter (· ≠ []) (none : Option JsString)).all
      (fun wanted => decide (fired.packId = some wanted)) && decide (dayKey since ≤ fired.day))
    ((firings resolvePackId events).foldl (tally makeMemoKey) [])
  rw [summed, ← @countP_firings resolvePackId]
  exact counted

/-- The unfiltered rows add up to the named events of the window. -/
theorem total_queryAsync (dated : ∀ event ∈ events, IsDay (dayKey event.at))
    (unevicted : Unevicted resolvePackId maxBuckets events) {since : JsString}
    (isDay : IsDay (dayKey since)) :
    total (queryAsync (handled resolvePackId maxBuckets events) since none) =
      events.countP fun event => event.named && dayKey since ≤ dayKey event.at := by
  rw [queryAsync, readSince, handled_eq unevicted]
  have summed := total_bucketOf StatKey.toGuardLabel (fun key =>
    dateOf (dayKey since) ≤ dateOf key.day ∧
      (none : Option JsString).all fun wanted => key.packId = wanted)
    (((firings resolvePackId events).map Firing.statKey).foldl (tally id) [])
  rw [summed, countIn_rows, ← @countP_firings resolvePackId]
  apply List.countP_congr
  intro fired member
  have compared := isDay_le_iff isDay (dated_firings dated fired member)
  simp only [Bool.and_eq_true, decide_eq_true_eq, compared, Option.all_none, and_true]
  rfl

/-- The last separator splits a text whose end has none. -/
theorem append_bar_inj {front other back rest : JsString}
    (same : front ++ bar :: back = other ++ bar :: rest) (noBar : bar ∉ back) (without : bar ∉ rest) :
    front = other ∧ back = rest := by
  obtain ⟨middle, rfl, split⟩ | ⟨middle, rfl, split⟩ := List.append_eq_append_iff.mp same
  · cases middle with
    | nil => exact ⟨(List.append_nil front).symm, (List.cons.inj split).2⟩
    | cons unit middle =>
        refine absurd ?_ noBar
        rw [(List.cons.inj split).2]
        exact List.mem_append_right _ List.mem_cons_self
  · cases middle with
    | nil => exact ⟨List.append_nil other, (List.cons.inj split).2.symm⟩
    | cons unit middle =>
        refine absurd ?_ without
        rw [(List.cons.inj split).2]
        exact List.mem_append_right _ List.mem_cons_self

theorem bar_not_mem_phase (phase : GuardPhase) : bar ∉ phase.text := by
  cases phase <;> decide

theorem bar_not_mem_kind (kind : DecisionKind) : bar ∉ kind.text := by
  cases kind <;> decide

theorem guardPhase_text_inj {first second : GuardPhase} (same : first.text = second.text) :
    first = second := by
  revert same
  cases first <;> cases second <;> decide

theorem decisionKind_text_inj {first second : DecisionKind} (same : first.text = second.text) :
    first = second := by
  revert same
  cases first <;> cases second <;> decide

theorem bar_not_mem_day {day : JsString} (isDay : IsDay day) : bar ∉ day := by
  obtain ⟨year, month, last, rfl, -, -, -, years, months, days⟩ := isDay
  have other {digits : JsString} (each : ∀ unit ∈ digits, isDigit unit = true) : bar ∉ digits :=
    fun member => absurd (each bar member) (by decide)
  have apart : bar ≠ hyphen := by decide
  simp [other years, other months, other days, apart]

/-- The joined keys without packs are apart. -/
theorem joinedKey_inj {first second : StatKey} (firstDay : IsDay first.day)
    (secondDay : IsDay second.day) (firstPack : first.packId = []) (secondPack : second.packId = [])
    (same : joinedKey first = joinedKey second) : first = second := by
  have parts (key : StatKey) (pack : key.packId = []) : joinedKey key =
      (((key.guardName ++ bar :: key.guardPhase.text) ++ bar :: key.decisionKind.text) ++
        bar :: key.day) ++ [bar] := by
    simp [joinedKey, pack]
  rw [parts first firstPack, parts second secondPack, List.append_cancel_right_eq] at same
  obtain ⟨rest, day⟩ :=
    append_bar_inj same (bar_not_mem_day firstDay) (bar_not_mem_day secondDay)
  obtain ⟨rest, kind⟩ := append_bar_inj rest (bar_not_mem_kind _) (bar_not_mem_kind _)
  obtain ⟨name, phase⟩ := append_bar_inj rest (bar_not_mem_phase _) (bar_not_mem_phase _)
  obtain ⟨⟨guardName, guardPhase, decisionKind, firstDay⟩, packId⟩ := first
  obtain ⟨⟨otherName, otherPhase, otherKind, secondDay⟩, otherPack⟩ := second
  obtain rfl := guardPhase_text_inj phase
  obtain rfl := decisionKind_text_inj kind
  dsimp only at name day firstPack secondPack
  subst name day firstPack secondPack
  rfl

/-- Agreement on a pack makes memory count each of its keys as the database does. -/
theorem countIn_memo_of_agreement (dated : ∀ event ∈ events, IsDay (dayKey event.at))
    (unevicted : Unevicted resolvePackId maxBuckets events)
    (agreement : Agreement resolvePackId maxBuckets events (· ≠ some [])) {key : StatKey}
    (isDay : IsDay key.day) (packed : key.packId ≠ []) :
    countIn (fun fired : Firing => decide (fired.statKey = key))
        ((firings resolvePackId events).foldl (tally makeMemoKey) []) =
      (firings resolvePackId events).countP fun fired => fired.statKey = key := by
  have nonempty : some key.packId ≠ some [] := fun empty => packed (Option.some.inj empty)
  have here : dayKey key.day = key.day := dayKey_of_isDay isDay
  have counts := ((agreement key.day (here.symm ▸ isDay)).1 _ nonempty).counts key.toGuardLabel
  rw [countOf_query unevicted nonempty,
    countOf_readSince dated unevicted (here.symm ▸ isDay)] at counts
  have single (fired : Firing) : (decide (fired.statKey.toGuardLabel = key.toGuardLabel) &&
      (decide (dayKey key.day ≤ fired.statKey.day) &&
        (some key.packId).all fun wanted => decide (fired.statKey.packId = wanted))) =
      decide (fired.statKey = key) := by
    rw [here, Option.all_some, Bool.eq_iff_iff]
    simp only [Bool.and_eq_true, decide_eq_true_iff]
    constructor
    · rintro ⟨label, -, pack⟩
      cases key
      cases fired
      dsimp only [Firing.statKey] at label pack
      rw [Firing.statKey, label, pack]
    · rintro rfl
      exact ⟨rfl, le_refl _, rfl⟩
  rw [funext single] at counts
  rw [counts]
  apply List.countP_congr
  intro fired _
  rw [← single fired]
  rfl

/-- A proper part of the counted entries has a smaller count. -/
theorem countP_lt_countP {A : Type} {part whole : A → Bool} {items : List A}
    (inside : ∀ item ∈ items, part item = true → whole item = true) {extra : A}
    (member : extra ∈ items) (counted : whole extra = true) (left : part extra = false) :
    items.countP part < items.countP whole := by
  obtain ⟨front, back, rfl⟩ := List.append_of_mem member
  have early : front.countP part ≤ front.countP whole :=
    List.countP_mono_left fun item known => inside item (List.mem_append_left _ known)
  have late : back.countP part ≤ back.countP whole :=
    List.countP_mono_left fun item known =>
      inside item (List.mem_append_right _ (List.mem_cons_of_mem _ known))
  simp only [List.countP_append, List.countP_cons, counted, left, if_true, Bool.false_eq_true,
    if_false]
  omega

/-- A collision shows in the answer for the pack of one of the colliding firings. -/
theorem uncollided_of_agreement (dated : ∀ event ∈ events, IsDay (dayKey event.at))
    (unevicted : Unevicted resolvePackId maxBuckets events)
    (agreement : Agreement resolvePackId maxBuckets events (· ≠ some [])) :
    Uncollided (firings resolvePackId events) := by
  intro first firstIn second secondIn same
  by_contra different
  have tallies : Tallies makeMemoKey (firings resolvePackId events) _ := tallies_foldl _
  obtain ⟨row, known, joined⟩ := tallies.covers first firstIn
  -- One of the two is not the firing that the shared bucket was made for.
  obtain ⟨other, otherIn, otherKey, otherRow⟩ : ∃ other ∈ firings resolvePackId events,
      makeMemoKey other = makeMemoKey row.1 ∧ other.statKey ≠ row.1.statKey := by
    by_cases own : first.statKey = row.1.statKey
    · exact ⟨second, secondIn, (joined.trans same).symm, fun equal => different (own.trans equal.symm)⟩
    · exact ⟨first, firstIn, joined.symm, own⟩
  have days := @dated_firings resolvePackId events dated
  by_cases packed : row.1.statKey.packId = []
  · have otherPacked : other.statKey.packId ≠ [] := by
      intro empty
      refine otherRow (joinedKey_inj (days other otherIn) ?_ empty packed otherKey)
      exact days row.1 (tallies.stems row known)
    have counted := countIn_memo_of_agreement dated unevicted agreement (days other otherIn) otherPacked
    have absent : countIn (fun fired : Firing => decide (fired.statKey = other.statKey))
        ((firings resolvePackId events).foldl (tally makeMemoKey) []) = 0 := by
      rw [countIn, List.filter_eq_nil_iff.mpr]
      · rfl
      · intro place inside equal
        have sameKey : makeMemoKey place.1 = makeMemoKey row.1 := by
          rw [← otherKey, makeMemoKey, of_decide_eq_true equal]
          rfl
        have sameRow : place = row := List.inj_on_of_nodup_map tallies.distinct inside known sameKey
        exact otherRow (sameRow ▸ (of_decide_eq_true equal).symm)
    have present : 0 < (firings resolvePackId events).countP fun fired =>
        fired.statKey = other.statKey :=
      List.countP_pos_iff.mpr ⟨other, otherIn, decide_eq_true rfl⟩
    omega
  · have counted := countIn_memo_of_agreement dated unevicted agreement
      (days row.1 (tallies.stems row known)) packed
    have least : row.2 ≤ countIn (fun fired : Firing => decide (fired.statKey = row.1.statKey))
        ((firings resolvePackId events).foldl (tally makeMemoKey) []) := by
      refine List.le_sum_of_mem (List.mem_map.mpr ⟨row, ?_, rfl⟩)
      exact List.mem_filter.mpr ⟨known, decide_eq_true rfl⟩
    have less : ((firings resolvePackId events).countP fun fired =>
        fired.statKey = row.1.statKey) < row.2 := by
      rw [tallies.counts row known]
      refine countP_lt_countP ?_ otherIn (decide_eq_true otherKey) (decide_eq_false otherRow)
      intro fired _ equal
      rw [decide_eq_true_iff] at equal ⊢
      rw [makeMemoKey, equal]
      rfl
    omega

/-- An empty filter is none in memory and one for the missing pack in the database. -/
theorem query_empty (stats : GuardFireStats) (since : JsString) :
    query stats since (some []) = query stats since none := rfl

/-- No counted event belongs to a pack. -/
def Unpacked (firings : List Firing) : Prop := ∀ fired ∈ firings, fired.packId.getD [] = []

instance (firings : List Firing) : Decidable (Unpacked firings) :=
  inferInstanceAs (Decidable (∀ fired ∈ firings, fired.packId.getD [] = []))

theorem Unpacked.uncollided (dated : ∀ event ∈ events, IsDay (dayKey event.at))
    (unpacked : Unpacked (firings resolvePackId events)) :
    Uncollided (firings resolvePackId events) := by
  intro first firstIn second secondIn same
  have days := @dated_firings resolvePackId events dated
  exact joinedKey_inj (days first firstIn) (days second secondIn) (unpacked first firstIn)
    (unpacked second secondIn) same

/-- A counted event of a pack shows in the answer for the empty filter. -/
theorem unpacked_of_agreement (dated : ∀ event ∈ events, IsDay (dayKey event.at))
    (unevicted : Unevicted resolvePackId maxBuckets events)
    (agreement : Agreement resolvePackId maxBuckets events fun _ => True) :
    Unpacked (firings resolvePackId events) := by
  intro fired member
  by_contra packed
  have filtered : Agreement resolvePackId maxBuckets events (· ≠ some []) := fun since isDay =>
    ⟨fun packId _ => (agreement since isDay).1 packId trivial, (agreement since isDay).2⟩
  have uncollided := uncollided_of_agreement dated unevicted filtered
  have isDay := dated_firings dated fired member
  have here : IsDay (dayKey fired.day) := (dayKey_of_isDay isDay).symm ▸ isDay
  have unfiltered := concord_of_uncollided dated unevicted uncollided here
    (Option.some_ne_none []).symm
  have empty := ((agreement fired.day here).1 (some []) trivial).counts fired.toGuardLabel
  rw [query_empty, unfiltered.counts, countOf_readSince dated unevicted here,
    countOf_readSince dated unevicted here] at empty
  refine absurd empty.symm (Nat.ne_of_lt (countP_lt_countP ?_ member ?_ ?_))
  · intro item _ counted
    simp only [Bool.and_eq_true, Option.all_none] at counted ⊢
    exact ⟨counted.1, counted.2.1, trivial⟩
  · simp [dayKey_of_isDay isDay]
  · simp [packed]

/-- Memory and database agree under every filter exactly if no counted event belongs to a pack, and
apart from the empty filter exactly if no two joined keys collide. -/
theorem agreement_iff (dated : ∀ event ∈ events, IsDay (dayKey event.at))
    (unevicted : Unevicted resolvePackId maxBuckets events) :
    (Agreement resolvePackId maxBuckets events (fun _ => True) ↔
        Unpacked (firings resolvePackId events)) ∧
      (Agreement resolvePackId maxBuckets events (· ≠ some []) ↔
        Uncollided (firings resolvePackId events)) := by
  have totals (uncollided : Uncollided (firings resolvePackId events)) (since : JsString)
      (isDay : IsDay (dayKey since)) := And.intro
    (total_query unevicted uncollided since) (total_queryAsync dated unevicted isDay)
  refine ⟨⟨unpacked_of_agreement dated unevicted, ?_⟩, uncollided_of_agreement dated unevicted, ?_⟩
  · intro unpacked since isDay
    have uncollided := unpacked.uncollided dated
    refine ⟨fun packId _ => ?_, totals uncollided since isDay⟩
    by_cases empty : packId = some []
    · subst empty
      refine concord_of_counts unevicted fun label => ?_
      have unfiltered := concord_of_uncollided dated unevicted uncollided isDay
        (Option.some_ne_none []).symm
      rw [query_empty, unfiltered.counts, countOf_readSince dated unevicted isDay,
        countOf_readSince dated unevicted isDay]
      apply List.countP_congr
      intro fired member
      simp [unpacked fired member]
    · exact concord_of_uncollided dated unevicted uncollided isDay empty
  · intro uncollided since isDay
    exact ⟨fun packId nonempty => concord_of_uncollided dated unevicted uncollided isDay nonempty,
      totals uncollided since isDay⟩

end Agreement

def newYear : JsString := "2026-01-01"

theorem newYear_isDay : IsDay (dayKey newYear) :=
  ⟨"2026", "01", "01", by decide, by decide, by decide, by decide,
    List.all_eq_true.mp (by decide), List.all_eq_true.mp (by decide),
    List.all_eq_true.mp (by decide)⟩

def executed (intentKind guardName : JsString) : LearningEvent where
  intentKind := intentKind
  decisionKind := .execute
  guardName := some guardName
  guardPhase := some .state
  «at» := newYear

theorem dated_executed {events : List (JsString × JsString)} :
    ∀ event ∈ events.map (fun entry => executed entry.1 entry.2), IsDay (dayKey event.at) := by
  intro event member
  obtain ⟨entry, -, rfl⟩ := List.mem_map.mp member
  exact newYear_isDay

/-- Without packs memory and database agree about a guard that fired twice. -/
theorem agreement_unpacked :
    Agreement none 2 ([(utf16 "pay", utf16 "limit"), (utf16 "pay", utf16 "limit")].map
      fun entry => executed entry.1 entry.2) fun _ => True :=
  (agreement_iff dated_executed (by decide +kernel)).1.mpr (by decide +kernel)

/-- A guard and a pack with separators in their names collide with another guard, and the empty
filter leaves out an event of a pack only in the database. -/
theorem disagreement_separators :
    ¬Agreement (some some) 2 ([(utf16 "x|state|EXECUTE|2026-01-01|y", utf16 "limit"),
        (utf16 "y", utf16 "limit|state|EXECUTE|2026-01-01|x")].map
          fun entry => executed entry.1 entry.2) (· ≠ some []) ∧
      ¬Agreement (some some) 2 ([(utf16 "billing", utf16 "limit")].map
        fun entry => executed entry.1 entry.2) fun _ => True := by
  constructor
  · intro agreement
    have uncollided := uncollided_of_agreement dated_executed (by decide +kernel) agreement
    revert uncollided
    decide +kernel
  · intro agreement
    have unpacked := unpacked_of_agreement dated_executed (by decide +kernel) agreement
    revert unpacked
    decide +kernel

end Adjudicate.Kernel
