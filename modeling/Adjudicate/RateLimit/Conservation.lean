/-
This file decides which runs of the rate-limit store conserve its counts.
-/

import Adjudicate.RateLimit.Windows

namespace Adjudicate.RateLimit

open Js

section

variable {world : World} {book : Book}

/-- A live counter and a live window come together, with one expiry. -/
theorem Agrees.live_cases (agrees : Agrees world book) (key : JsString) :
    liveEntry world.now world.entries key = none ∧ book.live key = none ∨
      ∃ entry window, liveEntry world.now world.entries key = some entry ∧
        book.live key = some window ∧ entry.expiresAt = window.expiresAt := by
  have same := agrees.windows key
  unfold liveEntry Book.live
  rw [agrees.now]
  cases stored : world.entries key with
  | none =>
      rw [stored] at same
      have missing : book.windows key = none := by simpa using same.symm
      simp [missing]
  | some entry =>
      rw [stored] at same
      obtain ⟨window, opened, expiry⟩ : ∃ window, book.windows key = some window ∧
          window.expiresAt = entry.expiresAt := by simpa using same.symm
      by_cases expired : entry.expiresAt.atMost book.now = true
      · left
        simp [opened, expiry, expired]
      · right
        exact ⟨entry, window, by simp [expired], by simp [opened, expiry, expired], expiry.symm⟩

theorem Book.live_eq_some {key : JsString} {window : Window} :
    book.live key = some window ↔
      book.windows key = some window ∧ window.expiresAt.atMost book.now = false := by
  simp [Book.live, Option.filter_eq_some_iff]

theorem Agrees.answer_eq_due_iff (agrees : Agrees world book) (key : JsString) :
    answer world.now world.entries key = book.due key ↔
      ∀ entry window, liveEntry world.now world.entries key = some entry →
        book.live key = some window → entry.count = book.standing key window.opener := by
  unfold answer Book.due
  obtain ⟨noEntry, noWindow⟩ | ⟨entry, window, live, open_, -⟩ := agrees.live_cases key
  · simp [noEntry, noWindow]
  · simp [live, open_]

theorem standing_append (key : JsString) (opener : Nat) (calls : List Admitted) (call : Admitted) :
    (calls ++ [call]).countP (fun call => Book.Standing key opener call) =
      calls.countP (fun call => Book.Standing key opener call) +
        if Book.Standing key opener call then 1 else 0 := by
  simp [List.countP_append, List.countP_singleton]

/-- No call has joined a window that is not yet open. -/
theorem Agrees.standing_unopened (agrees : Agrees world book) (key : JsString) :
    book.standing key book.calls.length = 0 := by
  refine List.countP_eq_zero.mpr ?_
  intro call inside
  have earlier := agrees.joined call inside
  have other : ¬call.window = book.calls.length := by omega
  simp [Book.Standing, other]

/-- A call on an unopened window keys opens it in the store and in the book. -/
theorem Agrees.check_fresh (agrees : Agrees world book) (args : CheckRateLimitArgs)
    (exceeded : Bool) (missing : liveEntry world.now world.entries args.key = none)
    (closed : book.live args.key = none) :
    Agrees (checkRateLimit world args).2 (book.check args exceeded) := by
  simp only [checkRateLimit, incrementAndGet, missing, Book.check, closed]
  constructor
  · exact agrees.now
  · intro key
    by_cases same : key = args.key
    · simp [same, agrees.now]
    · simp [same, agrees.windows key]
  · simpa using agrees.calls
  · intro key window opened
    by_cases same : key = args.key
    · obtain rfl : (⟨book.calls.length, book.now.add args.windowMs⟩ : Window) = window := by
        simpa [same] using opened
      simp
    · have earlier := agrees.opened key window (by simpa [same] using opened)
      simp only [List.length_append, List.length_singleton]
      omega
  · intro call inside
    obtain earlier | rfl : call ∈ book.calls ∨ call = _ := by simpa using inside
    · have joined := agrees.joined call earlier
      simp only [List.length_append, List.length_singleton]
      omega
    · simp

/-- A call in a live window joins it. -/
theorem Agrees.check_live (agrees : Agrees world book) (args : CheckRateLimitArgs)
    (exceeded : Bool) {entry : MemoryEntry} {window : Window}
    (found : liveEntry world.now world.entries args.key = some entry)
    (live : book.live args.key = some window) :
    Agrees (checkRateLimit world args).2 (book.check args exceeded) := by
  have stored := ((liveEntry_eq_some _ _ _).mp found).1
  have opened := (Book.live_eq_some.mp live).1
  simp only [checkRateLimit, incrementAndGet, found, Book.check, live]
  constructor
  · exact agrees.now
  · intro key
    by_cases same : key = args.key
    · have expiry := agrees.windows args.key
      rw [stored] at expiry
      simpa [same] using expiry
    · simp [same, agrees.windows key]
  · simpa using agrees.calls
  · intro key other known
    have earlier := agrees.opened key other known
    simp only [List.length_append, List.length_singleton]
    omega
  · intro call inside
    obtain earlier | rfl : call ∈ book.calls ∨ call = _ := by simpa using inside
    · have joined := agrees.joined call earlier
      simp only [List.length_append, List.length_singleton]
      omega
    · have earlier := agrees.opened args.key window opened
      simp only [List.length_append, List.length_singleton]
      omega

theorem Agrees.check (agrees : Agrees world book) (args : CheckRateLimitArgs) (exceeded : Bool) :
    Agrees (checkRateLimit world args).2 (book.check args exceeded) := by
  obtain ⟨missing, closed⟩ | ⟨entry, window, found, live, -⟩ := agrees.live_cases args.key
  · exact agrees.check_fresh args exceeded missing closed
  · exact agrees.check_live args exceeded found live

/-- A result and its line in the book name the same key and the same flag. -/
theorem Agrees.result (agrees : Agrees world book) (call : Nat) :
    (world.results[call]?).map (fun result => (result.key, result.rolledBack)) =
      (book.calls[call]?).map fun admitted => (admitted.key, admitted.rolledBack) := by
  rw [← List.getElem?_map, ← List.getElem?_map, agrees.calls]

/-- A rollback of an unknown or spent result changes nothing; a first rollback lowers the entry. -/
theorem Agrees.rollback_cases (agrees : Agrees world book) (call : Nat) :
    (RateLimit.rollback world call = world ∧ book.rollback call = book ∧ ¬book.Stale call) ∨
      ∃ result admitted, world.results[call]? = some result ∧ book.calls[call]? = some admitted ∧
        admitted.key = result.key ∧ admitted.rolledBack = false ∧
        RateLimit.rollback world call =
          { world with entries := (decrement world.entries admitted.key).2
                       results := world.results.set call { result with rolledBack := true } } ∧
        book.rollback call =
          { book with calls := book.calls.set call { admitted with rolledBack := true } } := by
  have same := agrees.result call
  unfold RateLimit.rollback Book.rollback Book.Stale
  cases issued : world.results[call]? with
  | none =>
      have unknown : book.calls[call]? = none := by simpa [issued] using same.symm
      simp [unknown]
  | some result =>
      obtain ⟨admitted, known, key, flag⟩ : ∃ admitted, book.calls[call]? = some admitted ∧
          admitted.key = result.key ∧ admitted.rolledBack = result.rolledBack := by
        simpa [issued] using same.symm
      cases spent : result.rolledBack with
      | false => exact .inr ⟨result, admitted, rfl, known, key, by simp [flag, spent],
          by simp [spent, key], by simp [known]⟩
      | true =>
          left
          have unchanged : ({ admitted with rolledBack := true } : Admitted) = admitted := by
            rw [← spent, ← flag]
          obtain ⟨inside, reads⟩ := List.getElem?_eq_some_iff.mp known
          have kept : book.calls.set call admitted = book.calls := by
            rw [← reads, List.set_getElem_self]
          simp [spent, known, unchanged, kept, flag]

theorem decrement_expiresAt (entries : Entries) (lowered key : JsString) :
    ((decrement entries lowered).2 key).map MemoryEntry.expiresAt =
      (entries key).map MemoryEntry.expiresAt := by
  unfold decrement
  cases stored : entries lowered with
  | none => rfl
  | some entry =>
      by_cases same : key = lowered
      · simp [same, stored]
      · simp [same]

theorem Agrees.rollback (agrees : Agrees world book) (call : Nat) :
    Agrees (RateLimit.rollback world call) (book.rollback call) := by
  obtain ⟨world_, book_, -⟩ | ⟨result, admitted, issued, known, key, -, world_, book_⟩ :=
    agrees.rollback_cases call
  · rwa [world_, book_]
  · rw [world_, book_]
    constructor
    · exact agrees.now
    · intro key
      rw [← agrees.windows key]
      exact decrement_expiresAt _ _ _
    · simp only [List.map_set, agrees.calls, key]
    · intro key window opened
      simpa using agrees.opened key window opened
    · intro other inside
      rw [List.length_set]
      obtain earlier | rfl := List.mem_or_eq_of_mem_set inside
      · exact agrees.joined other earlier
      · exact agrees.joined admitted (List.mem_of_getElem? known)

theorem Agrees.advance (agrees : Agrees world book) (reading : JsNumber) :
    Agrees { world with now := laterOf world.now reading }
      { book with now := laterOf book.now reading } :=
  { agrees with now := by rw [agrees.now] }


theorem Counts.check (agrees : Agrees world book) (counts : Counts world book)
    (args : CheckRateLimitArgs) (exceeded : Bool) :
    Counts (checkRateLimit world args).2 (book.check args exceeded) := by
  intro key
  rw [(agrees.check args exceeded).answer_eq_due_iff]
  intro entry window found live
  have stored := (liveEntry_eq_some _ _ _).mp found
  have opened := Book.live_eq_some.mp live
  have before := (agrees.answer_eq_due_iff key).mp (counts key)
  obtain ⟨missing, closed⟩ | ⟨old, joined, oldFound, oldLive, -⟩ := agrees.live_cases args.key
  · simp only [checkRateLimit, incrementAndGet, missing, Book.check, closed] at stored opened ⊢
    unfold Book.standing
    rw [standing_append]
    by_cases same : key = args.key
    · subst same
      simp only [Function.update_self, Option.some.injEq] at stored opened
      obtain ⟨rfl, -⟩ := stored
      obtain ⟨rfl, -⟩ := opened
      have none_yet := agrees.standing_unopened args.key
      unfold Book.standing at none_yet
      rw [none_yet]
      simp [Book.Standing]
    · simp only [Function.update_of_ne same] at stored opened
      have count := before entry window ((liveEntry_eq_some _ _ _).mpr stored)
        (Book.live_eq_some.mpr opened)
      simpa [Book.Standing, Ne.symm same, Book.standing] using count
  · simp only [checkRateLimit, incrementAndGet, oldFound, Book.check, oldLive] at stored opened ⊢
    unfold Book.standing
    rw [standing_append]
    by_cases same : key = args.key
    · subst same
      simp only [Function.update_self, Option.some.injEq] at stored
      obtain ⟨rfl, -⟩ := stored
      obtain rfl : joined = window := Option.some.inj
        (oldLive.symm.trans (Book.live_eq_some.mpr opened))
      have count := before old joined oldFound oldLive
      simpa [Book.Standing, Book.standing] using count
    · simp only [Function.update_of_ne same] at stored
      have count := before entry window ((liveEntry_eq_some _ _ _).mpr stored)
        (Book.live_eq_some.mpr opened)
      simpa [Book.Standing, Ne.symm same, Book.standing] using count

theorem Counts.advance (agrees : Agrees world book) (counts : Counts world book)
    (reading : JsNumber) :
    Counts { world with now := laterOf world.now reading }
      { book with now := laterOf book.now reading } := by
  intro key
  rw [(agrees.advance reading).answer_eq_due_iff]
  intro entry window found live
  obtain ⟨stored, unexpired⟩ := (liveEntry_eq_some _ _ _).mp found
  obtain ⟨opened, open_⟩ := Book.live_eq_some.mp live
  -- What is live after the clock moved was live before.
  have before (expiry : JsNumber) (now : JsNumber)
      (later : expiry.atMost (laterOf now reading) = false) : expiry.atMost now = false := by
    cases expired : expiry.atMost now with
    | false => rfl
    | true => exact absurd (atMost_laterOf reading expired) (by simp [later])
  exact (agrees.answer_eq_due_iff key).mp (counts key) entry window
    ((liveEntry_eq_some _ _ _).mpr ⟨stored, before _ _ unexpired⟩)
    (Book.live_eq_some.mpr ⟨opened, before _ _ open_⟩)

/-- A first rollback takes its call out of its own window and out of no other. -/
theorem standing_set {calls : List Admitted} {call : Nat} {admitted : Admitted}
    (known : calls[call]? = some admitted) (first : admitted.rolledBack = false)
    (key : JsString) (opener : Nat) :
    (calls.set call { admitted with rolledBack := true }).countP
        (fun call => Book.Standing key opener call) =
      calls.countP (fun call => Book.Standing key opener call) -
        if admitted.key = key ∧ admitted.window = opener then 1 else 0 := by
  obtain ⟨inside, reads⟩ := List.getElem?_eq_some_iff.mp known
  rw [List.countP_set inside, reads]
  simp [Book.Standing, first]

theorem decrement_of_stored {entries : Entries} {key : JsString} {entry : MemoryEntry}
    (stored : entries key = some entry) :
    (decrement entries key).2 =
      Function.update entries key (some { entry with count := entry.count - 1 }) := by
  simp [decrement, stored]

theorem decrement_of_ne (entries : Entries) {lowered key : JsString} (other : key ≠ lowered) :
    (decrement entries lowered).2 key = entries key := by
  unfold decrement
  cases entries lowered with
  | none => rfl
  | some entry => simp [other]

/-- A rollback keeps the counts exactly when it is not stale. -/
theorem Counts.rollback_iff (agrees : Agrees world book) (counts : Counts world book)
    (call : Nat) :
    Counts (RateLimit.rollback world call) (book.rollback call) ↔ ¬book.Stale call := by
  have afterwards := agrees.rollback call
  obtain ⟨sameWorld, sameBook, fresh⟩ | ⟨result, admitted, -, known, -, first, world_, book_⟩ :=
    agrees.rollback_cases call
  · rw [sameWorld, sameBook]
    exact iff_of_true counts fresh
  have stands := standing_set known first
  have standing (key : JsString) (opener : Nat) : (book.rollback call).standing key opener =
      book.standing key opener -
        if admitted.key = key ∧ admitted.window = opener then 1 else 0 := by
    rw [book_]
    exact stands key opener
  have live (key : JsString) : (book.rollback call).live key = book.live key := by
    rw [book_]
    rfl
  have lowered {key : JsString} {entry : MemoryEntry} (same : admitted.key = key)
      (found : liveEntry world.now world.entries key = some entry) :
      liveEntry (RateLimit.rollback world call).now (RateLimit.rollback world call).entries key =
        some { entry with count := entry.count - 1 } := by
    obtain ⟨stored, unexpired⟩ := (liveEntry_eq_some _ _ _).mp found
    rw [world_, same, decrement_of_stored stored]
    exact (liveEntry_eq_some _ _ _).mpr ⟨Function.update_self _ _ _, unexpired⟩
  constructor
  · intro counted stale
    obtain ⟨other, window, known_, -, opened, later, standing_⟩ := stale
    obtain rfl : admitted = other := Option.some.inj (known.symm.trans known_)
    obtain ⟨-, closed⟩ | ⟨entry, same, found, opened_, -⟩ := agrees.live_cases admitted.key
    · simp [closed] at opened
    · obtain rfl : same = window := Option.some.inj (opened_.symm.trans opened)
      have before := (agrees.answer_eq_due_iff _).mp (counts _) entry same found opened
      have after := (afterwards.answer_eq_due_iff _).mp (counted _) _ same (lowered rfl found)
        ((live _).trans opened)
      rw [standing, if_neg fun both => later both.2.symm] at after
      simp only at after
      omega
  · intro fresh key
    rw [afterwards.answer_eq_due_iff]
    intro entry window found opened
    rw [live] at opened
    obtain ⟨-, closed⟩ | ⟨old, same, oldFound, opened_, -⟩ := agrees.live_cases key
    · simp [closed] at opened
    obtain rfl : same = window := Option.some.inj (opened_.symm.trans opened)
    have before := (agrees.answer_eq_due_iff key).mp (counts key) old same oldFound opened
    rw [standing]
    by_cases mine : admitted.key = key
    · rw [lowered mine oldFound] at found
      obtain rfl := Option.some.inj found
      subst mine
      by_cases own : admitted.window = same.opener
      · simp [own, before]
      · have none_stands : book.standing admitted.key same.opener = 0 := by
          by_contra some_stands
          exact fresh ⟨admitted, same, known, first, opened, Ne.symm own, by omega⟩
        simp [own, before, none_stands]
    · obtain ⟨stored, -⟩ := (liveEntry_eq_some _ _ _).mp found
      rw [world_] at stored
      change (decrement _ _).2 key = _ at stored
      rw [decrement_of_ne _ (Ne.symm mine)] at stored
      obtain rfl : old = entry :=
        Option.some.inj (((liveEntry_eq_some _ _ _).mp oldFound).1.symm.trans stored)
      simp [mine, before]

/-- A call joins the window whose standing calls it counts. -/
theorem Agrees.check_joins (agrees : Agrees world book) (args : CheckRateLimitArgs)
    (exceeded : Bool) :
    ∃ opener, (book.check args exceeded).calls =
        book.calls ++ [⟨args.key, opener, args.max, exceeded, false⟩] ∧
      book.due args.key = book.standing args.key opener + 1 := by
  unfold Book.check Book.due
  cases joined : book.live args.key with
  | none => exact ⟨book.calls.length, rfl, by simp [agrees.standing_unopened]⟩
  | some window => exact ⟨window.opener, rfl, rfl⟩

theorem Book.fitting_le_standing (book : Book) (key : JsString) (opener : Nat) (max : JsNumber) :
    book.fitting key opener max ≤ book.standing key opener := by
  refine List.countP_mono_left ?_
  intro call _ fits
  exact decide_eq_true (of_decide_eq_true fits).1

theorem Book.WithinMax.check (agrees : Agrees world book) (counts : Counts world book)
    (within : book.WithinMax) (args : CheckRateLimitArgs) :
    (book.check args (checkRateLimit world args).1.exceeded).WithinMax := by
  obtain ⟨opener, calls, joined⟩ := agrees.check_joins args (checkRateLimit world args).1.exceeded
  have told : (checkRateLimit world args).1.exceeded =
      args.max.passed (book.standing args.key opener + 1) := by
    rw [← joined, ← counts args.key, ← incrementAndGet_count _ _ _ args.windowMs]
    rfl
  intro key other max
  have before := within key other max
  have atMost := book.fitting_le_standing key other max
  unfold Book.fitting at before atMost ⊢
  rw [calls, List.countP_append, List.countP_singleton]
  by_cases fits : Book.Standing key other
      ⟨args.key, opener, args.max, (checkRateLimit world args).1.exceeded, false⟩ ∧
        args.max = max ∧ (checkRateLimit world args).1.exceeded = false
  · obtain ⟨⟨sameKey, sameWindow, -⟩, rfl, within_⟩ := fits
    change args.key = key at sameKey
    change opener = other at sameWindow
    subst sameKey sameWindow
    right
    rw [told] at within_
    refine JsNumber.passed_mono ?_ within_
    split <;> omega
  · rw [if_neg (by simpa using fits)]
    exact before

theorem Book.WithinMax.rollback (within : book.WithinMax) (call : Nat) :
    (book.rollback call).WithinMax := by
  unfold Book.rollback
  cases known : book.calls[call]? with
  | none => exact within
  | some admitted =>
      intro key opener max
      have before := within key opener max
      obtain ⟨inside, reads⟩ := List.getElem?_eq_some_iff.mp known
      have fewer : (book.calls.set call { admitted with rolledBack := true }).countP
            (fun call => Standing key opener call ∧ call.max = max ∧ call.exceeded = false) ≤
          book.calls.countP
            fun call => Standing key opener call ∧ call.max = max ∧ call.exceeded = false := by
        rw [List.countP_set inside]
        simp [Standing]
      unfold Book.fitting at before ⊢
      obtain none_fits | respected := before
      · exact .inl (Nat.le_zero.mp (none_fits ▸ fewer))
      · exact .inr (JsNumber.passed_mono fewer respected)

end

section

variable (now : JsNumber)

theorem observe_agrees (events : List Event) :
    Agrees (observe now events).world (observe now events).book := by
  induction events using List.reverseRecOn with
  | nil => exact ⟨rfl, by intro key; rfl, rfl, by simp [observe, Book.start],
      by simp [observe, Book.start]⟩
  | append_singleton events event agrees =>
      rw [observe_append]
      cases event with
      | check args => exact agrees.check args _
      | rollback call => exact agrees.rollback call
      | advance reading => exact agrees.advance reading

/-- Without stale rollbacks the counts and the bound survive every step. -/
theorem observe_counts {events : List Event} (fresh : NoStaleRollback now events) :
    Counts (observe now events).world (observe now events).book ∧
      (observe now events).book.WithinMax := by
  induction events using List.reverseRecOn with
  | nil =>
      constructor
      · intro key
        rfl
      · intro key opener max
        exact .inl rfl
  | append_singleton events event ih =>
      obtain ⟨counts, within⟩ := ih fun before call inside =>
        fresh before call (inside.trans (List.prefix_append _ _))
      have agrees := observe_agrees now events
      rw [observe_append]
      cases event with
      | check args => exact ⟨counts.check agrees args _, within.check agrees counts args⟩
      | rollback call =>
          exact ⟨(counts.rollback_iff agrees call).mpr (fresh events call (List.prefix_refl _)),
            within.rollback call⟩
      | advance reading => exact ⟨counts.advance agrees reading, within⟩

theorem counts_of_conserved {events before : List Event} (conserved : Conserved now events)
    (inside : before <+: events) :
    Counts (observe now before).world (observe now before).book := by
  intro key
  have seen := (conserved before inside).1 ⟨key, 0, 0⟩
  exact (incrementAndGet_count _ _ _ _).symm.trans seen

/-- The store conserves its counts exactly when no rollback arrives in a later window that still
has a call to lose. -/
theorem conserved_iff (events : List Event) :
    Conserved now events ↔ NoStaleRollback now events := by
  constructor
  · intro conserved before call inside
    have counts := counts_of_conserved now conserved ((List.prefix_append _ _).trans inside)
    have after := counts_of_conserved now conserved inside
    rw [observe_append] at after
    exact (counts.rollback_iff (observe_agrees now before) call).mp after
  · intro fresh before inside
    obtain ⟨counts, within⟩ := observe_counts now fun earlier call known =>
      fresh earlier call (known.trans inside)
    refine ⟨?_, within⟩
    intro args
    exact (incrementAndGet_count _ _ _ _).trans (counts args.key)

end

/-- The window of the first call has ended when its rollback takes the second call away. -/
def lateRollback : List Event :=
  [.check ⟨[], 10, 1⟩, .advance 10, .check ⟨[], 10, 1⟩, .rollback 0]

/-- The third call sees one where two are due, and two calls fit under a bound of one. -/
theorem lateRollback_not_conserved :
    ¬Conserved 0 lateRollback ∧
      (observe 0 (lateRollback ++ [.check ⟨[], 10, 1⟩])).book.fitting [] 1 1 = 2 := by
  refine ⟨?_, by decide +kernel⟩
  intro conserved
  have seen := (conserved lateRollback (List.prefix_refl _)).1 ⟨[], 10, 1⟩
  exact absurd seen (by decide +kernel)

end Adjudicate.RateLimit
