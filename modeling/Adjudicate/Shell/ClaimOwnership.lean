/-
This file proves when a release of the Redis ledger removes only the claim of its own call.
-/

import Adjudicate.Shell.ExpiringLedger
import Mathlib.Algebra.Order.Group.Int

namespace Adjudicate.Shell

open Js Canonical Adjudicate.Core Adjudicate.Kernel Adjudicate.Audit Adjudicate.Effect

section Ownership

variable {I T : Type} [AddCommGroup T] [LinearOrder T]

/-- An unexpired claim that its call holds is in the store, and two held claims of one hash are a
full time to live apart. -/
structure Owned (options : CreateRedisLedgerOptions T) (holds : I → JsString → Prop)
    (state : RedisState I T) : Prop where
  stamped : ∀ key claim, state.store key = some claim →
    state.claimedAt claim.owner key = some claim.written
  held : ∀ i hash, holds i hash → ∃ written,
    state.claimedAt i (options.ledgerKey hash) = some written ∧ written ≤ state.now ∧
    (state.now < written + options.ttlSeconds → ∃ claim,
      state.store (options.ledgerKey hash) = some claim ∧ claim.owner = i)
  apart : ∀ i j hash, i ≠ j → holds i hash → holds j hash → ∀ first second,
    state.claimedAt i (options.ledgerKey hash) = some first →
    state.claimedAt j (options.ledgerKey hash) = some second →
    first + options.ttlSeconds ≤ second ∨ second + options.ttlSeconds ≤ first

variable {options : CreateRedisLedgerOptions T} {holds later : I → JsString → Prop}
  {before after : RedisState I T}

/-- An unexpired held claim answers a read of its key. -/
theorem Owned.live (owned : Owned options holds before) {i : I} {hash : JsString}
    (holding : holds i hash) {written : T}
    (claimed : before.claimedAt i (options.ledgerKey hash) = some written) {now : T}
    (advanced : before.now ≤ now) (fresh : now < written + options.ttlSeconds) :
    ∃ claim, (before.at now).get options (options.ledgerKey hash) = some claim ∧ claim.owner = i := by
  obtain ⟨same, known, -, stored⟩ := owned.held i hash holding
  obtain rfl := Option.some.inj (claimed.symm.trans known)
  obtain ⟨claim, entry, rfl⟩ := stored (lt_of_le_of_lt advanced fresh)
  have stamp := owned.stamped _ claim entry
  obtain rfl := Option.some.inj (claimed.symm.trans stamp)
  refine ⟨claim, ?_, rfl⟩
  rw [RedisState.get, RedisState.at, entry, Option.filter_some, if_pos (by simpa using fresh)]

theorem Owned.keep (owned : Owned options holds before) (advanced : before.now ≤ after.now)
    (store : after.store = before.store) (claimedAt : after.claimedAt = before.claimedAt)
    (fewer : ∀ i hash, later i hash → holds i hash) : Owned options later after where
  stamped key claim entry := by
    rw [claimedAt]
    exact owned.stamped key claim (store ▸ entry)
  held i hash holding := by
    obtain ⟨written, claimed, past, stored⟩ := owned.held i hash (fewer i hash holding)
    refine ⟨written, by rw [claimedAt]; exact claimed, past.trans advanced, ?_⟩
    intro fresh
    rw [store]
    exact stored (lt_of_le_of_lt advanced fresh)
  apart i j hash different first second := by
    rw [claimedAt]
    exact owned.apart i j hash different (fewer i hash first) (fewer j hash second)

/-- A release in time meets no unexpired claim of another holder. -/
theorem Owned.erase (injective : Function.Injective options.keyFor) (owned : Owned options holds before)
    (advanced : before.now ≤ after.now) {i : I} {released : JsString} {event : ShellEvent}
    (op : event.op = .release released) (holding : holds i released)
    (inTime : ReleasesInTime options i before event after)
    (store : after.store = Function.update before.store (options.ledgerKey released) none)
    (claimedAt : after.claimedAt = before.claimedAt)
    (fewer : ∀ j hash, later j hash → holds j hash ∧ ¬(j = i ∧ hash = released)) :
    Owned options later after := by
  have same_hash {hash : JsString} (same : options.ledgerKey hash = options.ledgerKey released) :
      hash = released := List.append_cancel_left (injective same)
  refine ⟨?_, ?_, ?_⟩
  · intro key claim entry
    rw [store] at entry
    by_cases same : key = options.ledgerKey released
    · rw [same, Function.update_self] at entry
      cases entry
    · rw [Function.update_of_ne same] at entry
      rw [claimedAt]
      exact owned.stamped key claim entry
  · intro j hash still
    obtain ⟨old, other⟩ := fewer j hash still
    obtain ⟨written, known, past, stored⟩ := owned.held j hash old
    refine ⟨written, by rw [claimedAt]; exact known, past.trans advanced, ?_⟩
    intro fresh
    by_cases same : options.ledgerKey hash = options.ledgerKey released
    · obtain rfl := same_hash same
      have different : j ≠ i := fun acting => other ⟨acting, rfl⟩
      obtain ⟨claim, found, -⟩ := owned.live old known advanced fresh
      have gone : after.store (options.ledgerKey hash) = none := by
        rw [store, Function.update_self]
      obtain ⟨own, ownAt, ownFresh⟩ := inTime _ claim ⟨hash, op, rfl, found, gone⟩
      obtain ⟨sameOwn, knownOwn, ownPast, -⟩ := owned.held i hash holding
      obtain rfl := Option.some.inj (ownAt.symm.trans knownOwn)
      rcases owned.apart j i hash different old holding written own known ownAt with before | behind
      · exact absurd fresh (not_lt.mpr (before.trans (ownPast.trans advanced)))
      · exact absurd ownFresh (not_lt.mpr (behind.trans (past.trans advanced)))
    · rw [store, Function.update_of_ne same]
      exact stored (lt_of_le_of_lt advanced fresh)
  · intro first second hash different firstHolds secondHolds
    rw [claimedAt]
    exact owned.apart first second hash different (fewer first hash firstHolds).1
      (fewer second hash secondHolds).1

/-- A release of a held hash removes only its own claim exactly when it is in time. -/
theorem Owned.removesOwn_iff
    (owned : Owned options holds before) (advanced : before.now ≤ after.now) {i : I}
    {event : ShellEvent} (holding : ∀ released, event.op = .release released → holds i released) :
    RemovesOwn options i before event after ↔ ReleasesInTime options i before event after := by
  constructor
  · intro own key claim removes
    obtain rfl := own key claim removes
    obtain ⟨released, -, -, found, -⟩ := removes
    obtain ⟨entry, fresh⟩ := Option.filter_eq_some_iff.mp found
    exact ⟨claim.written, owned.stamped key claim entry, of_decide_eq_true fresh⟩
  · intro inTime key claim removes
    obtain ⟨written, known, fresh⟩ := inTime key claim removes
    obtain ⟨released, op, rfl, found, -⟩ := removes
    obtain ⟨other, answered, owner⟩ := owned.live (holding released op) known advanced fresh
    obtain rfl := Option.some.inj (found.symm.trans answered)
    exact owner

variable [DecidableEq I]

/-- A new claim finds its key free, so every earlier holder of the key has expired. -/
theorem Owned.claim (owned : Owned options holds before) (advanced : before.now ≤ after.now) {i : I}
    {claimed : JsString} {hit : LedgerHit}
    (free : (before.at after.now).get options (options.ledgerKey claimed) = none)
    (store : after.store = Function.update before.store (options.ledgerKey claimed)
      (some { owner := i, written := after.now, hit }))
    (claimedAt : after.claimedAt = Function.update before.claimedAt i
      (Function.update (before.claimedAt i) (options.ledgerKey claimed) (some after.now)))
    (grown : ∀ j hash, later j hash → holds j hash ∨ (j = i ∧ hash = claimed)) :
    Owned options later after := by
  have ownTime : after.claimedAt i (options.ledgerKey claimed) = some after.now := by
    rw [claimedAt, Function.update_self, Function.update_self]
  have otherTime {j : I} {key : JsString} (other : j ≠ i ∨ key ≠ options.ledgerKey claimed) :
      after.claimedAt j key = before.claimedAt j key := by
    rw [claimedAt]
    by_cases acting : j = i
    · subst acting
      rw [Function.update_self, Function.update_of_ne (other.resolve_left fun away => away rfl)]
    · rw [Function.update_of_ne acting]
  -- A holder of the claimed key is the acting call or has expired.
  have expired {j : I} {hash : JsString} (holding : holds j hash) (other : j ≠ i)
      (same : options.ledgerKey hash = options.ledgerKey claimed) {written : T}
      (known : before.claimedAt j (options.ledgerKey hash) = some written) :
      written + options.ttlSeconds ≤ after.now := by
    by_contra fresh
    obtain ⟨claim, found, -⟩ := owned.live holding known advanced (not_le.mp fresh)
    rw [same, free] at found
    cases found
  have holder {j : I} {hash : JsString} (holding : later j hash)
      (other : j ≠ i ∨ options.ledgerKey hash ≠ options.ledgerKey claimed) : holds j hash := by
    rcases grown j hash holding with old | ⟨rfl, rfl⟩
    · exact old
    · exact other.elim (fun away => (away rfl).elim) fun away => (away rfl).elim
  refine ⟨?_, ?_, ?_⟩
  · intro key claim entry
    rw [store] at entry
    by_cases same : key = options.ledgerKey claimed
    · subst same
      rw [Function.update_self] at entry
      obtain rfl := Option.some.inj entry
      exact ownTime
    · rw [Function.update_of_ne same] at entry
      rw [otherTime (Or.inr same)]
      exact owned.stamped key claim entry
  · intro j hash holding
    by_cases own : j = i ∧ options.ledgerKey hash = options.ledgerKey claimed
    · obtain ⟨rfl, same⟩ := own
      rw [same]
      refine ⟨after.now, ownTime, le_refl _, fun _ => ⟨{ owner := j, written := after.now, hit }, ?_, rfl⟩⟩
      rw [store, Function.update_self]
    · have other := not_and_or.mp own
      obtain ⟨written, known, past, stored⟩ := owned.held j hash (holder holding other)
      refine ⟨written, (otherTime other).trans known, past.trans advanced, ?_⟩
      intro fresh
      by_cases same : options.ledgerKey hash = options.ledgerKey claimed
      · have late := expired (holder holding other) (other.resolve_right fun away => away same) same
          known
        exact absurd fresh (not_lt.mpr late)
      · rw [store, Function.update_of_ne same]
        exact stored (lt_of_le_of_lt advanced fresh)
  · intro first second hash different firstHolds secondHolds one two oneAt twoAt
    by_cases same : options.ledgerKey hash = options.ledgerKey claimed
    · by_cases acting : first = i
      · subst acting
        have other := @otherTime second (options.ledgerKey hash) (Or.inl different.symm)
        rw [same, ownTime] at oneAt
        obtain rfl := Option.some.inj oneAt
        right
        exact expired (holder secondHolds (Or.inl different.symm)) different.symm same
          (other.symm.trans twoAt)
      · have known := @otherTime first (options.ledgerKey hash) (Or.inl acting)
        by_cases actingToo : second = i
        · subst actingToo
          rw [same, ownTime] at twoAt
          obtain rfl := Option.some.inj twoAt
          left
          exact expired (holder firstHolds (Or.inl acting)) acting same (known.symm.trans oneAt)
        · exact owned.apart first second hash different (holder firstHolds (Or.inl acting))
            (holder secondHolds (Or.inl actingToo)) one two (known.symm.trans oneAt)
            ((otherTime (Or.inl actingToo)).symm.trans twoAt)
    · exact owned.apart first second hash different (holder firstHolds (Or.inr same))
        (holder secondHolds (Or.inr same)) one two ((otherTime (Or.inr same)).symm.trans oneAt)
        ((otherTime (Or.inr same)).symm.trans twoAt)

end Ownership

section Runs

/-- The next release of a call gives back a hash that the call holds. -/
theorem holds_of_release {host : Host} {I State : Type} [DecidableEq I] {S : I → Type} {call : (i : I) → Call (S i)}
    {respond : I → State → ShellEvent → State → Prop} {start : State}
    {pool : Pool I Op Op.Response Thrown AdjudicateAndAuditResult State}
    (reachable : ReachableBy respond start (fun i => adjudicateAndAudit host (call i)) pool) {i : I} {op : Op}
    {next : Except Thrown (Op.Response op) → ShellProgram AdjudicateAndAuditResult}
    (waiting : pool.current i = .call op next) (outcome : Except Thrown (Op.Response op))
    {released : JsString} (releases : op = .release released) :
    ledgerKeys.Holds (pool.history i) released := by
  have reaches := reachable.reachable.reaches i
  rw [waiting] at reaches
  have gone : ledgerKeys.releases (⟨op, outcome⟩ : ShellEvent) = some released := by
    subst releases
    rfl
  exact (adjudicateAndAudit_careful host (call i)).holds ledgerKeys (.step outcome reaches) gone

variable {I T : Type} [DecidableEq I] [AddCommGroup T] [LinearOrder T]
  {S : I → Type} (host : Host) (call : (i : I) → Call (S i)) (options : CreateRedisLedgerOptions T)

/-- No call has written to the empty store yet. -/
def emptyRedis (now : T) : RedisState I T where
  now := now
  store := fun _ => none
  claimedAt := fun _ _ => none

/-- This is a command of a run whose releases are all in time. -/
def respondsInTime (i : I) (before : RedisState I T) (event : ShellEvent) (after : RedisState I T) :
    Prop :=
  redisResponds options i before event after ∧ ReleasesInTime options i before event after

variable {host call options} {start : T}
  {pool : Pool I Op Op.Response Thrown AdjudicateAndAuditResult (RedisState I T)}

theorem owned_of_reachable (injective : Function.Injective options.keyFor)
    (reachable : ReachableBy (respondsInTime options) (emptyRedis start)
      (fun i => adjudicateAndAudit host (call i)) pool) :
    Owned options (fun i => ledgerKeys.Holds (pool.history i)) pool.state := by
  induction reachable with
  | start => exact ⟨fun _ _ entry => (by cases entry), fun _ _ held => held.elim,
      fun _ _ _ _ held => held.elim⟩
  | @step pool i op next outcome state earlier waiting responds ih =>
      obtain ⟨answers, inTime⟩ := responds
      have grown (j : I) (hash : JsString)
          (held : ledgerKeys.Holds (Function.update pool.history i
            (pool.history i ++ [⟨op, outcome⟩]) j) hash) :
          (j = i ∧ ledgerKeys.claims ⟨op, outcome⟩ = some hash) ∨
            (ledgerKeys.Holds (pool.history j) hash ∧
              (j = i → ledgerKeys.releases ⟨op, outcome⟩ ≠ some hash)) := by
        by_cases acting : j = i
        · subst acting
          rw [Function.update_self, ledgerKeys.holds_append] at held
          rcases held with claims | ⟨old, kept⟩
          · exact Or.inl ⟨rfl, claims⟩
          · exact Or.inr ⟨old, fun _ => kept⟩
        · rw [Function.update_of_ne acting] at held
          exact Or.inr ⟨held, fun same => (acting same).elim⟩
      obtain ⟨store, claimedAt, unclaimed⟩ | ⟨entry, hit, made, free, store, claimedAt⟩ |
        ⟨released, gone, store, claimedAt⟩ := redisResponds_cases options answers
      · refine ih.keep answers.1 store claimedAt ?_
        intro j hash held
        rcases grown j hash held with ⟨-, claims⟩ | ⟨old, -⟩
        · rw [unclaimed] at claims
          cases claims
        · exact old
      · refine ih.claim answers.1 free store claimedAt ?_
        intro j hash held
        rcases grown j hash held with ⟨rfl, claims⟩ | ⟨old, -⟩
        · right
          refine ⟨rfl, ?_⟩
          dsimp only at made
          subst made
          cases outcome with
          | error raised => cases claims
          | ok response =>
              cases response with
              | acquired => exact (Option.some.inj claims).symm
              | «exists» => cases claims
        · exact Or.inl old
      · dsimp only at gone
        have holding := holds_of_release earlier waiting outcome gone
        refine ih.erase injective answers.1 gone holding inTime store claimedAt ?_
        intro j hash held
        subst gone
        rcases grown j hash held with ⟨-, claims⟩ | ⟨old, kept⟩
        · cases claims
        · exact ⟨old, fun same => kept same.1 (by rw [same.2]; rfl)⟩

/-- Two calls that both execute one hash wrote their claims a full time to live apart. -/
def ExecutionsApart (options : CreateRedisLedgerOptions T)
    (pool : Pool I Op Op.Response Thrown AdjudicateAndAuditResult (RedisState I T)) : Prop :=
  ∀ i j first second hash, i ≠ j → pool.current i = .pure first → pool.current j = .pure second →
    first.Executing → first.record.intentHash = hash →
    second.Executing → second.record.intentHash = hash →
    ∃ one two, pool.state.claimedAt i (options.ledgerKey hash) = some one ∧
      pool.state.claimedAt j (options.ledgerKey hash) = some two ∧
      (one + options.ttlSeconds ≤ two ∨ two + options.ttlSeconds ≤ one)

end Runs

def shortLedger : CreateRedisLedgerOptions ℤ where
  keyFor := id
  ttlSeconds := 10

/-- Three copies of one call start over an empty Redis. -/
def threeCalls :
    Pool (Fin 3) Op Op.Response Thrown AdjudicateAndAuditResult (RedisState (Fin 3) ℤ) where
  state := emptyRedis 0
  current := fun _ => adjudicateAndAudit sampleHost sampleCall
  history := fun _ => []

/-- The ledger answers as Redis does, and the sink of the first call is down. -/
def serveOutage (delay : ℕ) (i : Fin 3) (state : RedisState (Fin 3) ℤ) :
    (op : Op) → Except Thrown (Op.Response op) × RedisState (Fin 3) ℤ
  | .checkLedger intentHash =>
      let current := state.at (state.now + delay)
      (.ok ((current.get shortLedger (shortLedger.ledgerKey intentHash)).map StoredClaim.hit), current)
  | .recordExecution entry =>
      let current := state.at (state.now + delay)
      match current.setNx shortLedger i (shortLedger.ledgerKey entry.intentHash)
          (ledgerHit entry "2026-01-01T00:00:01.000Z") with
      | some next => (.ok .acquired, next)
      | none => (.ok .exists, current)
  | .release intentHash =>
      let current := state.at (state.now + delay)
      (.ok (), current.del (shortLedger.ledgerKey intentHash))
  | .emit record =>
      (if i = 0 then .error (.error "Error" "sink down") else calmResponse (.emit record),
        state.at (state.now + delay))
  | op => (calmResponse op, state.at (state.now + delay))

theorem serveOutage_responds (delay : ℕ) (i : Fin 3) (state : RedisState (Fin 3) ℤ) (op : Op) :
    redisResponds shortLedger i state ⟨op, (serveOutage delay i state op).1⟩
      (serveOutage delay i state op).2 := by
  have later : state.now ≤ state.now + (delay : ℤ) := by omega
  cases op with
  | recordExecution entry =>
      unfold serveOutage
      dsimp only
      split
      · next next written =>
          have kept : next.now = state.now + (delay : ℤ) := by
            unfold RedisState.setNx at written
            split at written
            · cases written
            · obtain rfl := Option.some.inj written
              rfl
          refine ⟨kept ▸ later, "2026-01-01T00:00:01.000Z", ?_⟩
          rw [kept]
          exact written
      · next taken =>
          refine ⟨later, ?_, rfl⟩
          unfold RedisState.setNx at taken
          split at taken
          · next found => exact Option.isSome_iff_exists.mpr ⟨_, found⟩
          · cases taken
  | checkLedger intentHash => exact ⟨later, rfl, rfl⟩
  | release intentHash => exact ⟨later, rfl⟩
  | emit record => exact ⟨later, rfl⟩
  | _ => exact ⟨later, rfl⟩

/-- The first call claims the hash and awaits its sink until its claim has expired and the second call
has executed. Its release then frees the hash for the third call. -/
def outageSchedule : List (Fin 3 × ℕ) :=
  List.replicate 7 (0, 0) ++ [(1, 10)] ++ List.replicate 30 (1, 0) ++ List.replicate 30 (0, 0) ++
    List.replicate 30 (2, 0)

def outagePool : Pool (Fin 3) Op Op.Response Thrown AdjudicateAndAuditResult (RedisState (Fin 3) ℤ) :=
  outageSchedule.foldl (Pool.serveNext serveOutage)
    ⟨emptyRedis 0, fun _ => adjudicateAndAudit sampleHost sampleCall, fun _ => []⟩

def returned {A : Type} : ShellProgram A → Option A
  | .pure value => some value
  | _ => none

theorem eq_pure_of_returned {A : Type} {program : ShellProgram A} {value : A}
    (returns : returned program = some value) : program = .pure value := by
  cases program with
  | pure other => exact congrArg _ (Option.some.inj returns)
  | throw raised => cases returns
  | call op next => cases returns

end Adjudicate.Shell
