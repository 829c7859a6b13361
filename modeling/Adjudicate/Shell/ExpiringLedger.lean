/-
This file models the Redis ledger, whose entries expire while their owners still run.
-/

import Adjudicate.Effect.Actors
import Adjudicate.Shell.Interleaving
import Mathlib.Algebra.Order.Group.Defs

namespace Adjudicate.Shell

open Js Canonical Adjudicate.Core Adjudicate.Kernel Adjudicate.Audit Adjudicate.Effect

/-- Times are exact and belong to the server. -/
structure CreateRedisLedgerOptions (T : Type) where
  keyFor : JsString → JsString
  ttlSeconds : T

def CreateRedisLedgerOptions.ledgerKey {T : Type} (options : CreateRedisLedgerOptions T)
    (intentHash : JsString) : JsString :=
  options.keyFor (utf16 "ledger:intent:" ++ intentHash)

/-- The stored text is the JSON text of the hit, which is parsed back on every read. The call that
wrote it and the time of the write are observed only. -/
structure StoredClaim (I T : Type) where
  owner : I
  written : T
  hit : LedgerHit

/-- The last times of the calls' writes are observed only. -/
structure RedisState (I T : Type) where
  now : T
  store : JsString → Option (StoredClaim I T)
  claimedAt : I → JsString → Option T

section

variable {I T : Type} [DecidableEq I] [AddCommGroup T] [LinearOrder T]
  (options : CreateRedisLedgerOptions T)

/-- This is `GET`, which does not see an entry past its time to live. -/
def RedisState.get (state : RedisState I T) (key : JsString) : Option (StoredClaim I T) :=
  (state.store key).filter fun claim => state.now < claim.written + options.ttlSeconds

/-- This is `SET` with `NX` and `EX`, which answers `null` when the key is taken. -/
def RedisState.setNx (state : RedisState I T) (i : I) (key : JsString) (hit : LedgerHit) :
    Option (RedisState I T) :=
  match state.get options key with
  | some _ => none
  | none => some { state with
      store := Function.update state.store key (some { owner := i, written := state.now, hit })
      claimedAt := Function.update state.claimedAt i
        (Function.update (state.claimedAt i) key (some state.now)) }

/-- This is `DEL`, which looks at the key alone. -/
def RedisState.del (state : RedisState I T) (key : JsString) : RedisState I T :=
  { state with store := Function.update state.store key none }

def RedisState.at (state : RedisState I T) (now : T) : RedisState I T := { state with now }

/-- The client stamps the entry with its own clock. -/
def ledgerHit (entry : LedgerRecordInput) (instant : JsString) : LedgerHit where
  resourceVersion := entry.resourceVersion
  «at» := instant
  sessionId := entry.sessionId
  kind := entry.kind

def Claims (i : I) (before after : RedisState I T) (entry : LedgerRecordInput) : Prop :=
  ∃ instant,
    before.setNx options i (options.ledgerKey entry.intentHash) (ledgerHit entry instant) = some after

/-- The clock advances before every effect, and a failed command may or may not have taken effect. -/
def redisResponds (i : I) (before : RedisState I T) (event : ShellEvent) (after : RedisState I T) :
    Prop :=
  before.now ≤ after.now ∧
  let current := before.at after.now
  match event with
  | ⟨.checkLedger intentHash, .ok found⟩ =>
      found = (current.get options (options.ledgerKey intentHash)).map StoredClaim.hit ∧
        after = current
  | ⟨.recordExecution entry, .ok .acquired⟩ => Claims options i current after entry
  | ⟨.recordExecution entry, .ok .exists⟩ =>
      (current.get options (options.ledgerKey entry.intentHash)).isSome ∧ after = current
  | ⟨.recordExecution entry, .error _⟩ => after = current ∨ Claims options i current after entry
  | ⟨.release intentHash, .ok _⟩ => after = current.del (options.ledgerKey intentHash)
  | ⟨.release intentHash, .error _⟩ =>
      after = current ∨ after = current.del (options.ledgerKey intentHash)
  | _ => after = current

/-- The release takes a live entry out of the store. -/
def Removes (before : RedisState I T) (event : ShellEvent) (after : RedisState I T)
    (key : JsString) (claim : StoredClaim I T) : Prop :=
  ∃ intentHash, event.op = .release intentHash ∧ options.ledgerKey intentHash = key ∧
    (before.at after.now).get options key = some claim ∧ after.store key = none

/-- A release removes only a claim that the same call has written. -/
def RemovesOwn (i : I) (before : RedisState I T) (event : ShellEvent) (after : RedisState I T) :
    Prop :=
  ∀ key claim, Removes options before event after key claim → claim.owner = i

/-- The claim of a releasing call has not expired, unless its key is free anyway. -/
def ReleasesInTime (i : I) (before : RedisState I T) (event : ShellEvent)
    (after : RedisState I T) : Prop :=
  ∀ key claim, Removes options before event after key claim →
    ∃ written, before.claimedAt i key = some written ∧ after.now < written + options.ttlSeconds

/-- A command leaves the store, claims a free key or erases one. -/
theorem redisResponds_cases {i : I} {before after : RedisState I T} {event : ShellEvent}
    (responds : redisResponds options i before event after) :
    (after.store = before.store ∧ after.claimedAt = before.claimedAt ∧
      ledgerKeys.claims event = none) ∨
    (∃ entry hit, event.op = .recordExecution entry ∧
      (before.at after.now).get options (options.ledgerKey entry.intentHash) = none ∧
      after.store = Function.update before.store (options.ledgerKey entry.intentHash)
        (some { owner := i, written := after.now, hit }) ∧
      after.claimedAt = Function.update before.claimedAt i
        (Function.update (before.claimedAt i) (options.ledgerKey entry.intentHash)
          (some after.now))) ∨
    ∃ intentHash, event.op = .release intentHash ∧
      after.store = Function.update before.store (options.ledgerKey intentHash) none ∧
      after.claimedAt = before.claimedAt := by
  have unchanged (same : after = before.at after.now) :
      after.store = before.store ∧ after.claimedAt = before.claimedAt := by
    rw [same]
    exact ⟨rfl, rfl⟩
  have wrote {entry : LedgerRecordInput} (claims : Claims options i (before.at after.now) after entry) :
      ∃ hit, (before.at after.now).get options (options.ledgerKey entry.intentHash) = none ∧
        after.store = Function.update before.store (options.ledgerKey entry.intentHash)
          (some { owner := i, written := after.now, hit }) ∧
        after.claimedAt = Function.update before.claimedAt i
          (Function.update (before.claimedAt i) (options.ledgerKey entry.intentHash)
            (some after.now)) := by
    obtain ⟨instant, written⟩ := claims
    unfold RedisState.setNx at written
    split at written
    · cases written
    · next free =>
        have same := Option.some.inj written
        exact ⟨ledgerHit entry instant, free, by rw [← same]; rfl, by rw [← same]; rfl⟩
  have erased {intentHash : JsString}
      (same : after = (before.at after.now).del (options.ledgerKey intentHash)) :
      after.store = Function.update before.store (options.ledgerKey intentHash) none ∧
        after.claimedAt = before.claimedAt := by
    rw [same]
    exact ⟨rfl, rfl⟩
  obtain ⟨-, answer⟩ := responds
  obtain ⟨op, outcome⟩ := event
  cases op with
  | checkLedger intentHash =>
      cases outcome with
      | error raised => exact Or.inl ⟨(unchanged answer).1, (unchanged answer).2, rfl⟩
      | ok found => exact Or.inl ⟨(unchanged answer.2).1, (unchanged answer.2).2, rfl⟩
  | recordExecution entry =>
      cases outcome with
      | error raised =>
          rcases answer with same | claims
          · exact Or.inl ⟨(unchanged same).1, (unchanged same).2, rfl⟩
          · obtain ⟨hit, written⟩ := wrote claims
            exact Or.inr (Or.inl ⟨entry, hit, rfl, written⟩)
      | ok response =>
          cases response with
          | acquired =>
              obtain ⟨hit, written⟩ := wrote answer
              exact Or.inr (Or.inl ⟨entry, hit, rfl, written⟩)
          | «exists» => exact Or.inl ⟨(unchanged answer.2).1, (unchanged answer.2).2, rfl⟩
  | release intentHash =>
      cases outcome with
      | error raised =>
          rcases answer with same | gone
          · exact Or.inl ⟨(unchanged same).1, (unchanged same).2, rfl⟩
          · exact Or.inr (Or.inr ⟨intentHash, rfl, erased gone⟩)
      | ok response => exact Or.inr (Or.inr ⟨intentHash, rfl, erased answer⟩)
  | _ => exact Or.inl ⟨(unchanged answer).1, (unchanged answer).2, rfl⟩

end

end Adjudicate.Shell
